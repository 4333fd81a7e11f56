import Mathlib
import Scratchpad.Text.Offset

/-!
# Offsets and the characters before them

An offset that is a character boundary is the size of the characters before it, so that everything
about such offsets can be said of a text cut in two, `text = a ++ b`.

* `splitAtByte_byteSize`, `sliceBytes_byteSize` — to cut at the size of a beginning gives that
  beginning.
* `exists_floorOffset` — any offset goes down to the size of a beginning.
* `floorOffset_mono` — a larger offset does not go down further.
* `prefix_of_byteSize_le` — of two beginnings of a text the one with fewer bytes begins the other.
-/

namespace Scratchpad.Text

lemma byteSize_pos {text : List Char} (h : text ≠ []) : 0 < byteSize text := by
  cases text with
  | nil => exact absurd rfl h
  | cons c cs =>
      have := c.utf8Size_pos
      simp only [byteSize]
      omega

/-- To cut at the size of a beginning gives that beginning. -/
@[simp]
lemma splitAtByte_byteSize (a b : List Char) : splitAtByte (byteSize a) (a ++ b) = (a, b) := by
  induction a with
  | nil =>
      cases b with
      | nil => rfl
      | cons c cs =>
          have := c.utf8Size_pos
          rw [List.nil_append, splitAtByte, byteSize, if_neg (by omega)]
  | cons c cs ih => simp [splitAtByte, byteSize, ih]

lemma splitAtByte_of_eq_append {text a b : List Char} (h : text = a ++ b) :
    splitAtByte (byteSize a) text = (a, b) := h ▸ splitAtByte_byteSize a b

/-- The end of a beginning of the text is a place at which the text can be cut. -/
lemma floorOffset_of_prefix {text a : List Char} (h : a <+: text) :
    floorOffset (byteSize a) text = byteSize a := by
  obtain ⟨b, rfl⟩ := h
  rw [floorOffset, splitAtByte_byteSize]

lemma sliceBytes_byteSize (a m b : List Char) :
    sliceBytes (byteSize a) (byteSize (a ++ m)) (a ++ m ++ b) = m := by
  rw [sliceBytes, List.append_assoc, splitAtByte_byteSize, byteSize_append, Nat.add_sub_cancel_left,
    splitAtByte_byteSize]

/-- Any offset goes down to the size of a beginning. -/
lemma exists_floorOffset (n : ℕ) (text : List Char) :
    ∃ a b, text = a ++ b ∧ floorOffset n text = byteSize a :=
  ⟨_, _, (splitAtByte_append n text).symm, rfl⟩

/-- Of two beginnings of a text, the one with fewer bytes begins the other. -/
lemma prefix_of_byteSize_le {a b a' b' : List Char} (h : a ++ b = a' ++ b')
    (hle : byteSize a ≤ byteSize a') : a <+: a' := by
  rcases List.append_eq_append_iff.mp h with ⟨t, rfl, -⟩ | ⟨t, rfl, -⟩
  · exact List.prefix_append a t
  · rw [byteSize_append] at hle
    have ht : t = [] := by
      by_contra hne
      have := byteSize_pos hne
      omega
    simp [ht]

lemma byteSize_mono {a a' : List Char} (h : a <+: a') : byteSize a ≤ byteSize a' := by
  obtain ⟨t, rfl⟩ := h
  rw [byteSize_append]
  omega

/-- A character boundary at or before an offset is not passed on the way down. -/
lemma byteSize_le_floorOffset {a b : List Char} {n : ℕ} (h : byteSize a ≤ n) :
    byteSize a ≤ floorOffset n (a ++ b) := by
  induction a generalizing n with
  | nil => exact Nat.zero_le _
  | cons c cs ih =>
      rw [byteSize] at h
      have := ih (n := n - c.utf8Size) (by omega)
      rw [floorOffset] at this ⊢
      rw [List.cons_append, splitAtByte, if_pos (by omega), byteSize, byteSize]
      omega

lemma floorOffset_mono (text : List Char) : Monotone (floorOffset · text) := by
  intro m n h
  obtain ⟨a, b, rfl, hfloor⟩ := exists_floorOffset m text
  show floorOffset m (a ++ b) ≤ floorOffset n (a ++ b)
  rw [hfloor]
  exact byteSize_le_floorOffset ((hfloor ▸ floorOffset_le m _).trans h)

end Scratchpad.Text
