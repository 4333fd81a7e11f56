import Scratchpad.Pattern.Cursor
import Scratchpad.Pattern.Syntax

/-!
# Escapes

What a backslash may introduce: a character that would otherwise mean something, a control
character, a character by its hexadecimal number, a class, a property, or a condition on the place.

* `readHex` — a character by its number, in two, four or eight digits or in braces.
* `readProperty` — a character property.
* `readBoundary?` — the conditions written `\b{…}`.
* `readEscape` — any escape.
* `readAtom` — an escape, or a character outside of brackets.
-/

namespace Scratchpad.Pattern

/-- The characters that mean something in a pattern. -/
def isMeta (c : Char) : Bool := "\\.+*?()|[]{}^$#&-~".toList.contains c

/-- The characters that may be escaped although they mean nothing: ASCII ones that are neither
letters nor digits nor angle brackets. -/
def isNeedlesslyEscapable (c : Char) : Bool :=
  c.toNat ≤ 0x7F && !c.isAlphanum && c != '<' && c != '>'

/-- Whether a character is a hexadecimal digit. -/
def isHexDigit (c : Char) : Bool :=
  c.isDigit || ('a' ≤ c && c ≤ 'f') || ('A' ≤ c && c ≤ 'F')

/-- The value of a hexadecimal digit. -/
def hexValue (c : Char) : Nat :=
  if c.isDigit then c.toNat - '0'.toNat
  else if 'a' ≤ c then c.toNat - 'a'.toNat + 10
  else c.toNat - 'A'.toNat + 10

/-- The value of digits to a base. -/
def numeral (base : Nat) (digits : List Char) : Nat :=
  digits.foldl (fun n c => n * base + hexValue c) 0

/-- The character with a number, if there is one. -/
def charOfCode? (n : Nat) : Option Char :=
  if n.isValidChar then some (Char.ofNat n) else none

/-- Read a given number of hexadecimal digits. -/
def readHexDigits (extended : Bool) : (count : Nat) → Cursor → Except Failure (List Char × Cursor)
  | 0, c => .ok ([], c)
  | count + 1, c =>
    match c.rest with
    | [] => .error ⟨c.here, .escapeUnfinished⟩
    | ch :: _ =>
      if isHexDigit ch then
        match readHexDigits extended count (c.next extended) with
        | .ok (digits, c) => .ok (ch :: digits, c)
        | .error e => .error e
      else .error ⟨c.charSpan, .hexInvalidDigit⟩

/-- Read the hexadecimal number of a character behind `x`, `u` or `U`; the cursor stands on that
letter, and the escape began at `start`. -/
def readHex (extended : Bool) (start : Position) (letter : Char) (c : Cursor) :
    Except Failure (Atom × Cursor) :=
  let c := c.next extended
  match c.rest with
  | [] => .error ⟨c.here, .escapeUnfinished⟩
  | '{' :: _ =>
    let inner := c.next extended
    let (digits, d) := inner.takeWhile extended isHexDigit
    match d.rest with
    | [] => .error ⟨⟨c.pos, d.pos⟩, .escapeUnfinished⟩
    | '}' :: _ =>
      let behind := d.next extended
      if digits.isEmpty then .error ⟨⟨c.pos, behind.pos⟩, .hexEmpty⟩
      else match charOfCode? (numeral 16 digits) with
        | none => .error ⟨⟨c.bump.pos, d.pos⟩, .hexNotScalar⟩
        | some ch => .ok (.literal ⟨⟨start, behind.pos⟩, ch, false⟩, behind)
    | _ => .error ⟨d.charSpan, .hexInvalidDigit⟩
  | _ =>
    let count := if letter = 'x' then 2 else if letter = 'u' then 4 else 8
    match readHexDigits extended count c with
    | .error e => .error e
    | .ok (digits, behind) =>
      match charOfCode? (numeral 16 digits) with
      | none => .error ⟨⟨c.pos, behind.pos⟩, .hexNotScalar⟩
      | some ch => .ok (.literal ⟨⟨start, behind.pos⟩, ch, letter == 'x'⟩, behind)

/-- What a property in braces asks for, and whether it asks for all other characters instead.  The
signs `!=`, `:` and `=`, in this order of precedence, separate a property from its value; the first
of them asks for every other value. -/
def propertyQuery (name : List Char) : PropertyQuery × Bool :=
  match cut ['!', '='] name, cut [':'] name, cut ['='] name with
  | some (p, v), _, _ => (.valued (.ofList p) (.ofList v), true)
  | none, some (p, v), _ | none, none, some (p, v) => (.valued (.ofList p) (.ofList v), false)
  | none, none, none => (.named (.ofList name), false)
where
  cut (sign : List Char) : List Char → Option (List Char × List Char)
    | [] => none
    | c :: cs =>
      if sign.isPrefixOf (c :: cs) then some ([], (c :: cs).drop sign.length)
      else (cut sign cs).map fun r => (c :: r.1, r.2)

/-- Read a property behind `p` or `P`, on which the cursor stands.  Two negations, by `P` and by
`!=`, cancel each other. -/
def readProperty (extended : Bool) (start : Position) (negated : Bool) (c : Cursor) :
    Except Failure (Atom × Cursor) :=
  let c := c.next extended
  match c.rest with
  | [] => .error ⟨c.here, .escapeUnfinished⟩
  | '{' :: _ =>
    let (name, d) := (c.next extended).takeWhile extended (· != '}')
    if d.atEnd then .error ⟨d.here, .escapeUnfinished⟩
    else
      let behind := d.bump
      let (query, others) := propertyQuery name
      .ok (.property ⟨start, behind.pos⟩ query (negated != others), behind)
  | ch :: _ =>
    if ch = '\\' then .error ⟨c.charSpan, .propertySyntax⟩
    else
      let behind := c.next extended
      .ok (.property ⟨start, behind.pos⟩ (.named (.singleton ch)) negated, behind)

/-- The conditions that have names. -/
def boundaryNames : List (String × Assertion) :=
  [("start", .wordStart), ("end", .wordEnd), ("start-half", .wordStartHalf),
    ("end-half", .wordEndHalf)]

/-- Read the name in braces behind `\b`, on whose opening brace the cursor stands.  What does not
begin like a name is left to be read as a count of repetitions. -/
def readBoundary? (extended : Bool) (start : Position) (c : Cursor) :
    Except Failure (Option (Assertion × Cursor)) :=
  let inner := c.next extended
  if inner.atEnd then .error ⟨⟨start, inner.pos⟩, .boundaryOrCountUnfinished⟩
  else
    let (name, d) := inner.takeWhile extended fun ch => ch.isAlpha || ch == '-'
    if name.isEmpty then .ok none
    else match d.rest with
      | '}' :: _ =>
        match boundaryNames.lookup (.ofList name) with
        | some kind => .ok (some (kind, d.bump))
        | none => .error ⟨⟨inner.pos, d.pos⟩, .boundaryUnknown⟩
      | _ => .error ⟨⟨c.pos, d.pos⟩, .boundaryUnclosed⟩

/-- The control characters with a letter of their own. -/
def controlLetters : List (Char × Char) :=
  [('a', '\x07'), ('f', '\x0c'), ('t', '\t'), ('n', '\n'), ('r', '\r'), ('v', '\x0b')]

/-- The conditions with a letter of their own. -/
def assertionLetters : List (Char × Assertion) :=
  [('A', .textStart), ('z', .textEnd), ('B', .notWordBoundary), ('<', .wordStart), ('>', .wordEnd)]

/-- The classes with a letter of their own, and whether that letter negates. -/
def classLetters : List (Char × LetterClass × Bool) :=
  [('d', .digit, false), ('s', .space, false), ('w', .word, false), ('D', .digit, true),
    ('S', .space, true), ('W', .word, true)]

/-- Read an escape, on whose backslash the cursor stands. -/
def readEscape (extended : Bool) (c : Cursor) : Except Failure (Atom × Cursor) :=
  let start := c.pos
  let c := c.bump
  match c.rest with
  | [] => .error ⟨⟨start, c.pos⟩, .escapeUnfinished⟩
  | ch :: _ =>
    let behind := c.bump
    let span : Span := ⟨start, behind.pos⟩
    if ch.isDigit then .error ⟨⟨start, c.charSpan.stop⟩, .backReference⟩
    else if ch = 'x' || ch = 'u' || ch = 'U' then readHex extended start ch c
    else if ch = 'p' || ch = 'P' then readProperty extended start (ch == 'P') c
    else match classLetters.lookup ch with
      | some (kind, negated) => .ok (.letterClass span kind negated, behind)
      | none =>
        if isMeta ch || isNeedlesslyEscapable ch then .ok (.literal ⟨span, ch, false⟩, behind)
        else match controlLetters.lookup ch, assertionLetters.lookup ch with
          | some control, _ => .ok (.literal ⟨span, control, false⟩, behind)
          | none, some kind => .ok (.assertion span kind, behind)
          | none, none =>
            if ch = 'b' then
              if behind.rest.head? = some '{' then
                match readBoundary? extended start behind with
                | .error e => .error e
                | .ok none => .ok (.assertion span .wordBoundary, behind)
                | .ok (some (kind, d)) => .ok (.assertion ⟨start, d.pos⟩ kind, d)
              else .ok (.assertion span .wordBoundary, behind)
            else .error ⟨span, .escapeUnknown⟩

/-- Read an escape, or a character outside of brackets that has no other meaning there. -/
def readAtom (extended : Bool) (c : Cursor) : Except Failure (Atom × Cursor) :=
  match c.rest with
  | '\\' :: _ => readEscape extended c
  | '.' :: _ => .ok (.dot c.charSpan, c.bump)
  | '^' :: _ => .ok (.assertion c.charSpan .lineStart, c.bump)
  | '$' :: _ => .ok (.assertion c.charSpan .lineEnd, c.bump)
  | ch :: _ => .ok (.literal ⟨c.charSpan, ch, false⟩, c.bump)
  | [] => .error ⟨c.here, .escapeUnfinished⟩

end Scratchpad.Pattern
