import Scratchpad.Pattern.Escape

/-!
# Repetition operators

The signs `?`, `*` and `+` and the counts in braces, each with an optional `?` that makes it lazy.

* `Repeats` — how often, and whether greedily.
* `readCounts` — counts in braces.
* `readRepeat` — any operator.
-/

namespace Scratchpad.Pattern

/-- How often something is repeated, and whether as often as possible first. -/
structure Repeats where
  least : Nat
  most : Option Nat
  greedy : Bool
  deriving DecidableEq, Repr

/-- Counts are numbers of 32 bits. -/
def maxCount : Nat := 4294967295

/-- Read a decimal number with white space around it.  The failure is kept beside the cursor,
since a missing brace counts more than a missing number. -/
def readDecimal (extended : Bool) (c : Cursor) : Except Failure Nat × Cursor :=
  let (_, c) := c.takeWhile false Unicode.isBlank
  let (digits, d) := c.takeWhile extended Char.isDigit
  let (_, behind) := d.takeWhile extended Unicode.isBlank
  let span : Span := ⟨c.pos, d.pos⟩
  let value := numeral 10 digits
  if digits.isEmpty then (.error ⟨span, .countEmpty⟩, behind)
  else if value ≤ maxCount then (.ok value, behind)
  else (.error ⟨span, .decimalInvalid⟩, behind)

/-- Read counts in braces, on whose opening brace the cursor stands. -/
def readCounts (extended : Bool) (c : Cursor) : Except Failure (Repeats × Cursor) := do
  let start := c.pos
  let unclosed (d : Cursor) : Failure := ⟨⟨start, d.pos⟩, .countUnclosed⟩
  let d := c.next extended
  if d.atEnd then throw (unclosed d)
  let (least, d) := readDecimal extended d
  if d.atEnd then throw (unclosed d)
  let (least, most, d) ←
    if d.rest.head? == some ',' then do
      let d := d.next extended
      if d.atEnd then throw (unclosed d)
      let least ← least
      if d.rest.head? == some '}' then pure (least, none, d)
      else do
        let (most, d) := readDecimal extended d
        pure (least, some (← most), d)
    else do
      let least ← least
      pure (least, some least, d)
  if d.rest.head? != some '}' then throw (unclosed d)
  let d := d.next extended
  let lazily := d.rest.head? == some '?'
  let d := if lazily then d.bump else d
  if most.any (· < least) then throw ⟨⟨start, d.pos⟩, .countsReversed⟩
  return (⟨least, most, !lazily⟩, d)

/-- Read a repetition operator, on which the cursor stands. -/
def readRepeat (extended : Bool) (c : Cursor) : Except Failure (Repeats × Cursor) :=
  let simple (least : Nat) (most : Option Nat) : Except Failure (Repeats × Cursor) :=
    let d := c.bump
    let lazily := d.rest.head? == some '?'
    .ok (⟨least, most, !lazily⟩, if lazily then d.bump else d)
  match c.rest.head? with
  | some '?' => simple 0 (some 1)
  | some '*' => simple 0 none
  | some '+' => simple 1 none
  | _ => readCounts extended c

end Scratchpad.Pattern
