/-!
# Replacement templates

A template is a text with references to groups.  A dollar introduces a reference: `$1`, `$name` or
`${name}`; two dollars stand for one, and a dollar that introduces nothing stands for itself.

* `Piece` — a character or a reference.
* `Template.ofChars` — read a template.
* `Template.literal?` — the text of a template in which nothing is to be filled in.
* `Template.expand` — fill in the groups of a match.
-/

namespace Scratchpad.Replace

/-- A reference to a group, by its number or by its name. -/
inductive GroupRef where
  | number (index : Nat)
  | name (name : List Char)
  deriving DecidableEq, Repr

/-- A part of a template. -/
inductive Piece where
  | char (c : Char)
  | group (ref : GroupRef)
  deriving DecidableEq, Repr

/-- A template is a list of characters and references. -/
abbrev Template := List Piece

/-- The number that digits write, with an optional plus sign before them. -/
def readNumber? (cs : List Char) : Option Nat :=
  let digits := match cs with | '+' :: ds => ds | ds => ds
  if digits.isEmpty || !digits.all Char.isDigit then none
  else some (digits.foldl (fun n c => n * 10 + (c.toNat - '0'.toNat)) 0)

/-- A reference by what stands in it: a number if it can be read as one, else a name. -/
def GroupRef.ofChars (cs : List Char) : GroupRef :=
  match readNumber? cs with
  | some n => .number n
  | none => .name cs

/-- Whether a reference without braces can go on with the character. -/
def isRefChar (c : Char) : Bool := c.isAlphanum || c == '_'

/-- What a dollar introduces, given the characters behind it, and how many of them belong to it. -/
def readRef? : List Char → Option (Piece × Nat)
  | '$' :: _ => some (.char '$', 1)
  | '{' :: cs =>
    let name := cs.takeWhile (· != '}')
    if name.length < cs.length then some (.group (.ofChars name), name.length + 2) else none
  | cs =>
    let name := cs.takeWhile isRefChar
    if name.isEmpty then none else some (.group (.ofChars name), name.length)

namespace Template

/-- Read a template, when the next `skip` characters have been read already. -/
def ofCharsFrom : (skip : Nat) → List Char → Template
  | _, [] => []
  | skip + 1, _ :: cs => ofCharsFrom skip cs
  | 0, c :: cs =>
    match if c = '$' then readRef? cs else none with
    | some (piece, taken) => piece :: ofCharsFrom taken cs
    | none => .char c :: ofCharsFrom 0 cs

/-- Read a template. -/
def ofChars (cs : List Char) : Template := ofCharsFrom 0 cs

/-- The text of a template without dollars, which is written for every match. -/
def literal? : Template → Option (List Char)
  | [] => some []
  | .char c :: t => if c = '$' then none else (literal? t).map (c :: ·)
  | .group _ :: _ => none

/-- The characters of one piece, given the text of each numbered group and the numbers of the named
ones.  A group that does not exist or that took no part is empty. -/
def expandPiece (groupText : Nat → Option (List Char)) (number? : String → Option Nat) :
    Piece → List Char
  | .char c => [c]
  | .group (.number n) => (groupText n).getD []
  | .group (.name name) => ((number? (.ofList name)).bind groupText).getD []

/-- Fill in the groups of a match. -/
def expand (groupText : Nat → Option (List Char)) (number? : String → Option Nat)
    (t : Template) : List Char :=
  t.flatMap (expandPiece groupText number?)

end Template

end Scratchpad.Replace
