import Scratchpad.Unicode.Addition
import Scratchpad.Unicode.Category
import Scratchpad.Unicode.Trait

/-!
# Quoted text

A text is shown in quotes so that it can be read on any terminal: quotes and backslashes get a
backslash, control characters with a letter are written by it, and every other character that is
invisible, or that would join the one before it, is written by its number.

* `escapeChar` — one character inside the quotes.
* `quoted` — a text in quotes.
-/

namespace Scratchpad.Text

open Unicode (CharSet)

/-- The characters that show nothing of their own: controls, formats, private and unassigned
ones, and all separators but the space. -/
def invisible : CharSet :=
  (["cc", "cf", "co", "zl", "zp", "zs"].foldl
    (fun s name => s.union (Unicode.categoryOf name))
    (Unicode.assigned.union Unicode.additions).complement).diff (.single ' ')

/-- The characters that join the one before them. -/
def joining : CharSet :=
  Unicode.extenderAdditions.union
    ((Unicode.findRuns? "graphemeextend" Unicode.traitRuns).elim .empty .ofRuns)

/-- A number in lower-case hexadecimal digits. -/
def hexadecimal (n : Nat) : List Char := Nat.toDigits 16 n

/-- One character as it is written between quotes. -/
def escapeChar (c : Char) : List Char :=
  if c = '\x00' then ['\\', '0']
  else if c = '\t' then ['\\', 't']
  else if c = '\r' then ['\\', 'r']
  else if c = '\n' then ['\\', 'n']
  else if c = '\\' || c = '"' then ['\\', c]
  else if joining.contains c || invisible.contains c then
    ['\\', 'u', '{'] ++ hexadecimal c.toNat ++ ['}']
  else [c]

/-- A text in quotes. -/
def quoted (s : String) : String :=
  .ofList ('"' :: (s.toList.flatMap escapeChar ++ ['"']))

end Scratchpad.Text
