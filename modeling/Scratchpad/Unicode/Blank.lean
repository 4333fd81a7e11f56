import Scratchpad.Unicode.CharSet

/-!
# White space

The characters with the property `White_Space`: the line and tab controls, the space, and the
spaces and separators beyond ASCII.

* `blanks` — the set.
* `isBlank` — membership in it.
-/

namespace Scratchpad.Unicode

/-- The white-space characters. -/
def blanks : CharSet := ⟨[
  (0x9, 0xD), (0x20, 0x20), (0x85, 0x85), (0xA0, 0xA0), (0x1680, 0x1680), (0x2000, 0x200A),
  (0x2028, 0x2029), (0x202F, 0x202F), (0x205F, 0x205F), (0x3000, 0x3000)]⟩

/-- Whether a character is white space. -/
def isBlank (c : Char) : Bool := blanks.contains c

end Scratchpad.Unicode
