/-!
# Offsets into a text

A text is read here as its list of characters, while a cursor counts UTF-8 bytes or, when an
editor supplies it, UTF-16 code units.  This file relates the three.

* `byteSize` — the number of UTF-8 bytes of a list of characters.
* `splitAtByte` — cut a text at a byte offset, moving down to a character boundary.
* `floorOffset` — the offset at which `splitAtByte` really cuts.
* `sliceBytes` — the characters between two byte offsets.
* `byteOfUtf16` — the byte offset that belongs to a UTF-16 offset.
-/

namespace Scratchpad.Text

/-- The number of bytes that the characters take in UTF-8. -/
def byteSize : List Char → Nat
  | [] => 0
  | c :: cs => c.utf8Size + byteSize cs

/-- The longest beginning of the text that fits into `n` bytes, and what is left.  An offset
inside a character goes down to its first byte, one past the end to the end. -/
def splitAtByte : Nat → List Char → List Char × List Char
  | _, [] => ([], [])
  | n, c :: cs =>
    if c.utf8Size ≤ n then
      let cut := splitAtByte (n - c.utf8Size) cs
      (c :: cut.1, cut.2)
    else ([], c :: cs)

/-- The largest character boundary that is at most `n`. -/
def floorOffset (n : Nat) (text : List Char) : Nat :=
  byteSize (splitAtByte n text).1

/-- The characters from byte `left` up to byte `right`. -/
def sliceBytes (left right : Nat) (text : List Char) : List Char :=
  (splitAtByte (right - left) (splitAtByte left text).2).1

/-- The number of UTF-16 code units of a character: two beyond the basic plane, else one. -/
def utf16Units (c : Char) : Nat :=
  if c.toNat < 0x10000 then 1 else 2

/-- The byte offset of a UTF-16 offset.  An offset inside a surrogate pair goes down to the
pair's first unit, one past the end to the end. -/
def byteOfUtf16 : Nat → List Char → Nat
  | _, [] => 0
  | n, c :: cs =>
    if utf16Units c ≤ n then c.utf8Size + byteOfUtf16 (n - utf16Units c) cs else 0

/-! ## Nothing is lost by cutting -/

theorem splitAtByte_append (n : Nat) (text : List Char) :
    (splitAtByte n text).1 ++ (splitAtByte n text).2 = text := by
  induction text generalizing n with
  | nil => rfl
  | cons c cs ih =>
    unfold splitAtByte
    split
    · simp [ih]
    · rfl

theorem byteSize_append (a b : List Char) : byteSize (a ++ b) = byteSize a + byteSize b := by
  induction a with
  | nil => simp [byteSize]
  | cons c cs ih => simp [byteSize, ih, Nat.add_assoc]

theorem floorOffset_le (n : Nat) (text : List Char) : floorOffset n text ≤ n := by
  unfold floorOffset
  induction text generalizing n with
  | nil => simp [splitAtByte, byteSize]
  | cons c cs ih =>
    unfold splitAtByte
    split
    · have := ih (n - c.utf8Size)
      simp only [byteSize]
      omega
    · simp [byteSize]

end Scratchpad.Text
