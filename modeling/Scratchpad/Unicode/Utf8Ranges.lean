import Scratchpad.Unicode.CharSet

/-!
# Sets of characters as sequences of byte ranges

In UTF-8 a set of characters becomes a list of sequences of byte ranges: a sequence stands for all
characters whose encoding takes one byte from each of its ranges.

* `encode` — the bytes of a code point.
* `byteSequences` — the sequences for a range of code points.
* `CharSet.byteSequences` — the sequences for a set.
-/

namespace Scratchpad.Unicode

/-- The bytes of a code point in UTF-8. -/
def encode (n : Nat) : List Nat :=
  if n ≤ 0x7F then [n]
  else if n ≤ 0x7FF then [0xC0 + n / 64, 0x80 + n % 64]
  else if n ≤ 0xFFFF then [0xE0 + n / 4096, 0x80 + n / 64 % 64, 0x80 + n % 64]
  else [0xF0 + n / 262144, 0x80 + n / 4096 % 64, 0x80 + n / 64 % 64, 0x80 + n % 64]

/-- Where a range has to be cut so that all its members have encodings of one length, and so that
its bytes vary independently: the last code point of the first piece. -/
def cutPoint? (lo hi : Nat) : Option Nat :=
  match [0x7F, 0x7FF, 0xFFFF].find? fun m => lo ≤ m && m < hi with
  | some m => some m
  | none =>
    if hi ≤ 0x7F then none
    else [64, 4096, 262144].findSome? fun block =>
      if lo / block = hi / block then none
      else if lo % block ≠ 0 then some (lo / block * block + block - 1)
      else if hi % block ≠ block - 1 then some (hi / block * block - 1)
      else none

/-- The sequences for a range of code points, which is cut at most `fuel` times on any way. -/
def byteSequences : (fuel : Nat) → (lo hi : Nat) → List (List (Nat × Nat))
  | 0, lo, hi => [(encode lo).zip (encode hi)]
  | fuel + 1, lo, hi =>
    match cutPoint? lo hi with
    | some m => byteSequences fuel lo m ++ byteSequences fuel (m + 1) hi
    | none => [(encode lo).zip (encode hi)]

/-- The sequences for a set of characters.  Twelve cuts are enough: three between lengths and
three at either end of what remains. -/
def CharSet.byteSequences (s : CharSet) : List (List (Nat × Nat)) :=
  s.ranges.flatMap fun r => Unicode.byteSequences 12 r.1 r.2

end Scratchpad.Unicode
