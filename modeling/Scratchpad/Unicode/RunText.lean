import Scratchpad.Unicode.CharSet

/-!
# Sets written as run lengths

The large tables are written as hexadecimal numbers: how many code points lie outside of the set,
then how many inside, and so on in turn from code point 0.

* `CharSet.ofRuns` — the set that such a text describes.
* `findRuns?` — the text that a table holds under a name.
-/

namespace Scratchpad.Unicode

/-- The value of a lower-case hexadecimal digit. -/
def hexDigit (c : Char) : Nat :=
  if c ≤ '9' then c.toNat - '0'.toNat else c.toNat - 'a'.toNat + 10

/-- The numbers of a text, which single spaces separate. -/
def readNumbers (value : Nat) : List Char → List Nat
  | [] => [value]
  | ' ' :: cs => value :: readNumbers 0 cs
  | c :: cs => readNumbers (value * 16 + hexDigit c) cs

/-- The ranges that run lengths describe, the first of which begins outside at `next`. -/
def rangesOfRuns (next : Nat) : List Nat → List (Nat × Nat)
  | outside :: inside :: rest =>
    (next + outside, next + outside + inside - 1) :: rangesOfRuns (next + outside + inside) rest
  | _ => []

/-- The set that a text of run lengths describes. -/
def CharSet.ofRuns (text : String) : CharSet := ⟨rangesOfRuns 0 (readNumbers 0 text.toList)⟩

/-- The runs that a table holds under a name. -/
def findRuns? (name : String) (table : List (List String × String)) : Option String :=
  (table.find? (·.1.contains name)).map (·.2)

end Scratchpad.Unicode
