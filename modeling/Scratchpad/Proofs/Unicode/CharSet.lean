import Mathlib
import Scratchpad.Unicode.RunText

/-!
# Characters outside of a set

A code point that lies outside of every range is no member of a set, and neither is it a member of
the union of two such sets.  Of a set that is written as run lengths the ranges are in ascending
order, so that those behind the code point need not be looked at, and the large tables need not be
evaluated.

* `inRanges_eq_false` — outside of every range.
* `CharSet.Avoids`, `CharSet.Avoids.union` — the same for a set, and for two sets joined.
* `avoids_rangesOfRuns` — the ranges of run lengths lie behind the place where these begin.
-/

namespace Scratchpad.Unicode

variable {n lo hi : ℕ} {ranges : List (ℕ × ℕ)}

lemma inRanges_eq_false (h : ∀ r ∈ ranges, n < r.1 ∨ r.2 < n) : inRanges n ranges = false := by
  induction ranges with
  | nil => rfl
  | cons r ranges ih =>
      have hrest := ih fun r' hr' => h r' (List.mem_cons_of_mem r hr')
      have hfirst := h r List.mem_cons_self
      simp only [inRanges, hrest, Bool.or_false]
      split
      · rfl
      · simp only [decide_eq_false_iff_not]
        omega

/-- A range that is added to others grows only over those that it touches. -/
lemma avoids_insertRange (hnew : n < lo ∨ hi < n) (h : ∀ r ∈ ranges, n < r.1 ∨ r.2 < n) :
    ∀ r ∈ insertRange lo hi ranges, n < r.1 ∨ r.2 < n := by
  induction ranges generalizing lo hi with
  | nil => simpa [insertRange] using hnew
  | cons r ranges ih =>
      obtain ⟨a, b⟩ := r
      obtain ⟨hfirst, hrest⟩ := List.forall_mem_cons.mp h
      rw [insertRange]
      split
      · simp only [List.forall_mem_cons]
        exact ⟨hnew, hfirst, hrest⟩
      · split
        · exact List.forall_mem_cons.mpr ⟨hfirst, ih hnew hrest⟩
        · refine ih ?_ hrest
          dsimp only at hfirst
          omega

namespace CharSet

/-- The code point lies outside of every range of the set. -/
def Avoids (s : CharSet) (n : ℕ) : Prop := ∀ r ∈ s.ranges, n < r.1 ∨ r.2 < n

instance (s : CharSet) (n : ℕ) : Decidable (s.Avoids n) :=
  inferInstanceAs (Decidable (∀ r ∈ s.ranges, n < r.1 ∨ r.2 < n))

namespace Avoids

variable {s t : CharSet}

lemma contains {c : Char} (h : s.Avoids c.toNat) : s.contains c = false := inRanges_eq_false h

lemma union (hs : s.Avoids n) (ht : t.Avoids n) : (s.union t).Avoids n := by
  obtain ⟨ranges⟩ := s
  obtain ⟨added⟩ := t
  unfold Avoids CharSet.union at *
  dsimp only at *
  induction added generalizing ranges with
  | nil => exact hs
  | cons r added ih =>
      obtain ⟨hfirst, hrest⟩ := List.forall_mem_cons.mp ht
      exact ih _ (avoids_insertRange hfirst hs) hrest

end Avoids

end CharSet

/-! ## Run lengths -/

/-- The ranges of run lengths lie behind the place where these begin, -/
lemma avoids_rangesOfRuns {runs : List ℕ} (h : n < lo) :
    ∀ r ∈ rangesOfRuns lo runs, n < r.1 ∨ r.2 < n := by
  induction lo, runs using rangesOfRuns.induct with
  | case1 next outside inside rest ih =>
      rw [rangesOfRuns]
      refine List.forall_mem_cons.mpr ⟨.inl ?_, ih (by omega)⟩
      dsimp only
      omega
  | case2 next runs hshort =>
      rw [rangesOfRuns]
      · simp
      · exact hshort

/-- and behind the first number of them. -/
lemma CharSet.avoids_ofRuns {text : String} {first : ℕ} {rest : List ℕ}
    (h : readNumbers 0 text.toList = first :: rest) (hlt : n < first) :
    (CharSet.ofRuns text).Avoids n := by
  unfold Avoids CharSet.ofRuns
  rw [h]
  cases rest with
  | nil => simp [rangesOfRuns]
  | cons inside rest =>
      rw [rangesOfRuns]
      refine List.forall_mem_cons.mpr ⟨.inl ?_, avoids_rangesOfRuns ?_⟩
      · simpa using hlt
      · omega

end Scratchpad.Unicode
