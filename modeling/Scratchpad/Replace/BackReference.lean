/-!
# References in replacements

The replacement of a rule refers to groups in its own way, which is put into the words of a
template:

* `$` and one or two digits, if they are the number of a group of the pattern; two digits are
  tried before one, and the number 0 is none;
* `$&`, the whole match;
* `$<name>`, if the pattern has named groups.

Two dollars stay two dollars, which a template takes for one, and any other dollar is doubled so
that it stands for itself.
-/

namespace Scratchpad.Replace

/-- The number of a group at the beginning of a text, and how many digits it takes. -/
def groupNumber? (groups : Nat) (cs : List Char) : Option (Nat × Nat) :=
  let digits := (cs.take 2).takeWhile Char.isDigit
  [2, 1].findSome? fun size =>
    let number := (digits.take size).foldl (fun n c => n * 10 + (c.toNat - '0'.toNat)) 0
    if size ≤ digits.length && 1 ≤ number && number < groups then some (number, size) else none

/-- A reference of a template. -/
def bracedRef (name : List Char) : List Char := ['$', '{'] ++ name ++ ['}']

/-- What a dollar becomes, given the characters behind it, and how many of them belong to it.
`groups` counts the whole match as a group. -/
def dollarText (groups : Nat) (hasNames : Bool) (behind : List Char) : List Char × Nat :=
  match groupNumber? groups behind with
  | some (number, size) => (bracedRef (Nat.toDigits 10 number), size)
  | none =>
    match behind with
    | '&' :: _ => (bracedRef ['0'], 1)
    | '$' :: _ => (['$', '$'], 1)
    | '<' :: cs =>
      let name := cs.takeWhile (· != '>')
      if hasNames && name.length < cs.length then (bracedRef name, name.length + 2)
      else (['$', '$'], 0)
    | _ => (['$', '$'], 0)

/-- The text of the template for a replacement, of which the next `skip` characters have been dealt
with already. -/
def templateTextFrom (groups : Nat) (hasNames : Bool) : (skip : Nat) → List Char → List Char
  | _, [] => []
  | skip + 1, _ :: cs => templateTextFrom groups hasNames skip cs
  | 0, c :: cs =>
    if c = '$' then
      let (text, taken) := dollarText groups hasNames cs
      text ++ templateTextFrom groups hasNames taken cs
    else c :: templateTextFrom groups hasNames 0 cs

/-- The text of the template for a replacement. -/
def templateText (groups : Nat) (hasNames : Bool) (replacement : List Char) : List Char :=
  templateTextFrom groups hasNames 0 replacement

end Scratchpad.Replace
