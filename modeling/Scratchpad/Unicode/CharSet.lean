/-!
# Sets of characters

A set of characters is kept as ranges of code points, in ascending order and with a gap between
any two.  Code points in the surrogate area are no characters and never belong to a set.

* `CharSet.contains` — membership.
* `CharSet.insert`, `CharSet.ofRange` — build sets.
* `CharSet.union`, `CharSet.inter`, `CharSet.diff`, `CharSet.symmDiff`, `CharSet.complement`.
-/

namespace Scratchpad.Unicode

/-- A set of characters, as ascending ranges of code points. -/
structure CharSet where
  ranges : List (Nat × Nat)
  deriving DecidableEq, Repr

/-- The largest code point. -/
def maxCode : Nat := 0x10FFFF

/-- Whether a code point lies in one of the ascending ranges. -/
def inRanges (n : Nat) : List (Nat × Nat) → Bool
  | [] => false
  | (lo, hi) :: rest => if n < lo then false else n ≤ hi || inRanges n rest

/-- Ascending ranges with one more range, which swallows those that it touches. -/
def insertRange (lo hi : Nat) : List (Nat × Nat) → List (Nat × Nat)
  | [] => [(lo, hi)]
  | (a, b) :: rest =>
    if hi + 1 < a then (lo, hi) :: (a, b) :: rest
    else if b + 1 < lo then (a, b) :: insertRange lo hi rest
    else insertRange (min a lo) (max b hi) rest

/-- The code points from `next` on that lie outside of the ascending ranges. -/
def gapsFrom (next : Nat) : List (Nat × Nat) → List (Nat × Nat)
  | [] => if next ≤ maxCode then [(next, maxCode)] else []
  | (a, b) :: rest =>
    if next < a then (next, a - 1) :: gapsFrom (b + 1) rest else gapsFrom (b + 1) rest

/-- What is left of a range without the surrogates. -/
def withoutSurrogates (r : Nat × Nat) : List (Nat × Nat) :=
  (if r.1 ≤ 0xD7FF then [(r.1, min r.2 0xD7FF)] else []) ++
    (if 0xE000 ≤ r.2 then [(max r.1 0xE000, r.2)] else [])

/-- The overlap of two ranges. -/
def overlap? (r s : Nat × Nat) : Option (Nat × Nat) :=
  if max r.1 s.1 ≤ min r.2 s.2 then some (max r.1 s.1, min r.2 s.2) else none

namespace CharSet

/-- The set without characters. -/
def empty : CharSet := ⟨[]⟩

/-- The set of all characters. -/
def full : CharSet := ⟨[(0, 0xD7FF), (0xE000, maxCode)]⟩

/-- The set of one character. -/
def single (c : Char) : CharSet := ⟨[(c.toNat, c.toNat)]⟩

/-- Whether the set has no members. -/
def isEmpty (s : CharSet) : Bool := s.ranges.isEmpty

/-- Whether the code point belongs to the set. -/
def hasCode (s : CharSet) (n : Nat) : Bool := inRanges n s.ranges

/-- Whether the character belongs to the set. -/
def contains (s : CharSet) (c : Char) : Bool := s.hasCode c.toNat

/-- The set with the characters between two code points added. -/
def insert (s : CharSet) (lo hi : Nat) : CharSet :=
  ⟨(withoutSurrogates (lo, hi)).foldl (fun rs r => insertRange r.1 r.2 rs) s.ranges⟩

/-- The characters between two code points. -/
def ofRange (lo hi : Nat) : CharSet := empty.insert lo hi

/-- The characters of any ranges, in any order. -/
def ofRanges (rs : List (Nat × Nat)) : CharSet :=
  rs.foldl (fun s r => s.insert r.1 r.2) empty

/-- The characters that belong to one of two sets. -/
def union (s t : CharSet) : CharSet :=
  ⟨t.ranges.foldl (fun rs r => insertRange r.1 r.2 rs) s.ranges⟩

/-- The characters that do not belong to the set. -/
def complement (s : CharSet) : CharSet :=
  ⟨(gapsFrom 0 s.ranges).flatMap withoutSurrogates⟩

/-- The characters that belong to both sets. -/
def inter (s t : CharSet) : CharSet :=
  ⟨s.ranges.flatMap fun r => t.ranges.filterMap (overlap? r)⟩

/-- The characters of the first set that do not belong to the second. -/
def diff (s t : CharSet) : CharSet := s.inter t.complement

/-- The characters that belong to exactly one of two sets. -/
def symmDiff (s t : CharSet) : CharSet := (s.union t).diff (s.inter t)

/-- Whether all members are ASCII. -/
def isAscii (s : CharSet) : Bool := s.ranges.all (·.2 ≤ 0x7F)

end CharSet

end Scratchpad.Unicode
