import Scratchpad.Note.Span
import Scratchpad.Proofs.Text.Offset
import Scratchpad.Proofs.Text.Search

/-!
# Where the search for a note begins and ends

The offsets of a note come from three searches.  Each is described here by the occurrences
`text = u ++ d ++ v` of the delimiter, for every delimiter, whether its occurrences can overlap or
not.

* `firstOccurrence?_eq_some_iff`, `firstOccurrence?_eq_none_iff` — the first occurrence in a window.
* `Delimiter.snap_spec` — a cursor inside an occurrence goes to the leftmost of these occurrences,
  and any other cursor stays where it is.
* `Delimiter.leftIndex_of_snap`, `Delimiter.rightIndex_of_snap` — the two ends of the note, given
  the text before and behind that place.
-/

namespace Scratchpad.Note

open Text

variable {part : List Char}

/-- If no occurrence of the window begins with the text, each begins behind the first character. -/
lemma exists_cons_of_not_found {c : Char} {cs : List Char} {low offset : ℕ}
    (hnot : ¬ (low ≤ offset ∧ part.isPrefixOf (c :: cs) = true)) {u v : List Char}
    (huv : c :: cs = u ++ part ++ v) (hle : low ≤ offset + byteSize u) :
    ∃ w, u = c :: w ∧ cs = w ++ part ++ v := by
  cases u with
  | nil =>
      refine absurd ⟨?_, List.isPrefixOf_iff_prefix.mpr ⟨v, huv.symm⟩⟩ hnot
      simpa [byteSize] using hle
  | cons d w =>
      obtain ⟨rfl, hcs⟩ := List.cons.inj huv
      exact ⟨w, rfl, hcs⟩

/-- Nothing is found in a window exactly if no occurrence begins in it. -/
theorem firstOccurrence?_eq_none_iff (hpart : part ≠ []) {low high offset : ℕ} {text : List Char} :
    firstOccurrence? part low high offset text = none ↔
      ∀ u v, text = u ++ part ++ v → low ≤ offset + byteSize u → high ≤ offset + byteSize u := by
  induction text generalizing offset with
  | nil => simp [firstOccurrence?, hpart]
  | cons c cs ih =>
      rw [firstOccurrence?]
      split
      · next h =>
        simp only [true_iff]
        intros
        omega
      · next h =>
        split
        · next hfound =>
          obtain ⟨hlow, hpre⟩ := hfound
          obtain ⟨v, hv⟩ := List.isPrefixOf_iff_prefix.mp hpre
          simp only [reduceCtorEq, false_iff]
          intro hall
          have := hall [] v hv.symm (by simpa [byteSize] using hlow)
          simp only [byteSize] at this
          omega
        · next hnot =>
          rw [ih]
          constructor
          · intro hall u v huv hle
            obtain ⟨w, rfl, hcs⟩ := exists_cons_of_not_found hnot huv hle
            have := hall w v hcs
            simp only [byteSize] at hle ⊢
            omega
          · intro hall u v huv hle
            have := hall (c :: u) v (by rw [huv]; simp)
            simp only [byteSize] at this
            omega

/-- **The first occurrence in a window.** -/
theorem firstOccurrence?_eq_some_iff (hpart : part ≠ []) {low high offset k : ℕ}
    {text : List Char} :
    firstOccurrence? part low high offset text = some k ↔
      ∃ u v, text = u ++ part ++ v ∧ k = offset + byteSize u ∧ low ≤ k ∧ k < high ∧
        ∀ u' v', text = u' ++ part ++ v' → low ≤ offset + byteSize u' →
          byteSize u ≤ byteSize u' := by
  induction text generalizing offset with
  | nil => simp [firstOccurrence?, hpart]
  | cons c cs ih =>
      rw [firstOccurrence?]
      split
      · next h =>
        simp only [reduceCtorEq, false_iff]
        rintro ⟨u, v, -, rfl, -, hk, -⟩
        omega
      · next h =>
        split
        · next hfound =>
          obtain ⟨hlow, hpre⟩ := hfound
          obtain ⟨v, hv⟩ := List.isPrefixOf_iff_prefix.mp hpre
          constructor
          · rintro ⟨⟩
            exact ⟨[], v, hv.symm, rfl, hlow, by omega, fun _ _ _ _ => Nat.zero_le _⟩
          · rintro ⟨u, v', -, rfl, -, -, hmin⟩
            have := hmin [] v hv.symm hlow
            simp only [byteSize, Nat.le_zero] at this
            rw [this, Nat.add_zero]
        · next hnot =>
          rw [ih]
          constructor
          · rintro ⟨u, v, hcs, rfl, hlow, hhigh, hmin⟩
            refine ⟨c :: u, v, by rw [hcs]; simp, by simp only [byteSize]; omega, hlow, hhigh, ?_⟩
            intro u' v' huv' hle
            obtain ⟨w, rfl, hcs'⟩ := exists_cons_of_not_found hnot huv' hle
            have := hmin w v' hcs'
            simp only [byteSize] at hle ⊢
            omega
          · rintro ⟨u, v, huv, rfl, hlow, hhigh, hmin⟩
            obtain ⟨w, rfl, hcs⟩ := exists_cons_of_not_found hnot huv hlow
            simp only [byteSize] at hlow hhigh ⊢
            refine ⟨w, v, hcs, by omega, by omega, by omega, fun u' v' hcs' hle => ?_⟩
            have := hmin (c :: u') v' (by rw [hcs']; simp)
            simp only [byteSize] at this
            omega

namespace Delimiter

variable (d : Delimiter) (text : List Char) (cursor : ℕ)

/-- **Where the search begins.**  A cursor strictly inside an occurrence of the delimiter goes to
the leftmost such occurrence; any other stays at its character boundary. -/
theorem snap_spec :
    (∃ u v, text = u ++ d.chars ++ v ∧ d.snap text cursor = byteSize u ∧
      byteSize u < floorOffset cursor text ∧ floorOffset cursor text < byteSize (u ++ d.chars) ∧
      ∀ u' v', text = u' ++ d.chars ++ v' → floorOffset cursor text < byteSize (u' ++ d.chars) →
        byteSize u ≤ byteSize u') ∨
    (d.snap text cursor = floorOffset cursor text ∧
      ∀ u v, text = u ++ d.chars ++ v → byteSize u < floorOffset cursor text →
        byteSize (u ++ d.chars) ≤ floorOffset cursor text) := by
  have hpos := byteSize_pos d.chars_ne_nil
  unfold snap
  simp only [byteSize_append]
  cases hfirst : firstOccurrence? d.chars (floorOffset cursor text - (byteSize d.chars - 1))
      (floorOffset cursor text) 0 text with
  | some k =>
      obtain ⟨u, v, huv, rfl, hlow, hhigh, hmin⟩ :=
        (firstOccurrence?_eq_some_iff d.chars_ne_nil).mp hfirst
      refine .inl ⟨u, v, huv, by simp, by omega, by omega, fun u' v' huv' hlt => ?_⟩
      exact hmin u' v' huv' (by omega)
  | none =>
      refine .inr ⟨rfl, fun u v huv hlt => ?_⟩
      have := (firstOccurrence?_eq_none_iff d.chars_ne_nil).mp hfirst u v huv
      omega

variable {d text cursor} {a b : List Char}

/-- The place where the search begins cuts the text in two. -/
lemma splitAtByte_snap (htext : text = a ++ b) (hsnap : d.snap text cursor = byteSize a) :
    splitAtByte (d.snap text cursor) text = (a, b) := by
  rw [hsnap, htext, splitAtByte_byteSize]

/-- The note begins behind the last delimiter before that place, -/
lemma leftIndex_of_snap (htext : text = a ++ b) (hsnap : d.snap text cursor = byteSize a)
    {u rest : List Char} (ha : a = u ++ d.chars ++ rest)
    (hmax : ∀ u' v', a = u' ++ d.chars ++ v' → u'.length ≤ u.length) :
    d.leftIndex text cursor = byteSize (u ++ d.chars) := by
  have hlast := (afterLast?_eq_some_iff d.chars_ne_nil).mpr ⟨u, ha, hmax⟩
  unfold leftIndex
  simp only [splitAtByte_snap htext hsnap, hlast]
  rw [ha, byteSize_append, Nat.add_sub_cancel]

/-- or with the text, if there is none. -/
lemma leftIndex_of_snap_of_absent (htext : text = a ++ b) (hsnap : d.snap text cursor = byteSize a)
    (ha : ¬ d.chars <:+: a) : d.leftIndex text cursor = 0 := by
  have hlast := (afterLast?_eq_none_iff d.chars_ne_nil).mpr ha
  unfold leftIndex
  simp only [splitAtByte_snap htext hsnap, hlast]

/-- The note ends at the first delimiter from there on. -/
lemma rightIndex_of_snap (htext : text = a ++ b) (hsnap : d.snap text cursor = byteSize a) :
    d.rightIndex text cursor = byteSize (a ++ beforeFirst d.chars b) := by
  unfold rightIndex
  simp only [splitAtByte_snap htext hsnap, byteSize_append]
  rw [hsnap]

end Delimiter

end Scratchpad.Note
