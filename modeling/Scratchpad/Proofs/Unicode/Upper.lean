import Scratchpad.Proofs.Unicode.CharSet
import Scratchpad.Unicode.UpperCase

/-!
# What upper case consists of

Two properties of the upper-case tables.  The tables are compared run by run, as the single
characters would be too many.

**Upper case is settled.**  The upper case of a character begins with one that is its own upper
case: `exists_upper_eq_cons`.  No run ends where another begins (`Shift.clears`), and the longer
mappings begin with settled characters.

**Upper case keeps out of a set** that no run and no longer mapping leads into, unless the character
is its own upper case: `upper_eq_self_or_notMem`.
-/

namespace Scratchpad.Unicode

/-! ## Runs -/

namespace Shift

variable {n m : ℕ} {runs : List Shift}

/-- No image of the first run is mapped by the second: it lies before or behind that run, or between
two code points of it. -/
def clears (s t : Shift) : Bool :=
  s.image + (s.last - s.first) < t.first || t.last < s.image ||
    (t.step == 2 && (s.step == 2 || s.first == s.last) && (s.image + t.first) % 2 == 1)

/-- No image of the run lies in the set. -/
def misses (s : Shift) (set : CharSet) : Bool :=
  set.ranges.all fun r => s.image + (s.last - s.first) < r.1 || r.2 < s.image

lemma maps_eq_true_iff {s : Shift} :
    s.maps n = true ↔ s.first ≤ n ∧ n ≤ s.last ∧ (n - s.first) % s.step = 0 := by
  simp [maps, and_assoc]

lemma maps_image_of_clears {s t : Shift} (h : s.clears t = true) (hn : s.maps n = true) :
    t.maps (s.image + (n - s.first)) = false := by
  obtain ⟨hfirst, hlast, hstep⟩ := maps_eq_true_iff.mp hn
  rw [Bool.eq_false_iff]
  intro ht
  obtain ⟨hfirst', hlast', hstep'⟩ := maps_eq_true_iff.mp ht
  simp only [clears, Bool.or_eq_true, Bool.and_eq_true, decide_eq_true_eq, beq_iff_eq] at h
  rcases h with (h | h) | ⟨⟨ht2, hs⟩, hodd⟩
  · omega
  · omega
  · rw [ht2] at hstep'
    rcases hs with hs2 | hone
    · rw [hs2] at hstep
      omega
    · omega

/-- An image comes from one of the runs. -/
lemma exists_of_image? (h : image? n runs = some m) :
    ∃ s ∈ runs, s.maps n = true ∧ m = s.image + (n - s.first) := by
  obtain ⟨s, hs, rfl⟩ := Option.map_eq_some_iff.mp h
  have hmaps : s.maps n = true := by simpa using List.find?_some hs
  exact ⟨s, List.mem_of_find?_eq_some hs, hmaps, rfl⟩

lemma image?_eq_none (h : ∀ s ∈ runs, s.maps n = false) : image? n runs = none := by
  rw [image?, Option.map_eq_none_iff, List.find?_eq_none]
  intro s hs
  rw [h s hs]
  exact Bool.false_ne_true

end Shift

/-! ## Settled characters -/

/-- Whether the tables leave the code point alone. -/
def isSettled (n : ℕ) : Bool :=
  (Shift.image? n upperShifts).isNone && (upperExpansions.lookup n).isNone

lemma upper_of_isSettled {c : Char} (h : isSettled c.toNat = true) : upper c = [c] := by
  simp only [isSettled, Bool.and_eq_true, Option.isNone_iff_eq_none] at h
  rw [upper, h.1, h.2]

lemma upper_ofNat {n : ℕ} (h : isSettled n = true) : upper (Char.ofNat n) = [Char.ofNat n] := by
  apply upper_of_isSettled
  rw [Char.toNat_ofNat]
  split
  · exact h
  · decide

/-- No run leads into another one. -/
lemma upperShifts_clears : upperShifts.all (fun s => upperShifts.all s.clears) = true := by
  decide +kernel

/-- No run leads to a character with a longer upper case. -/
lemma upperShifts_clears_expansions :
    upperShifts.all (fun s => upperExpansions.all fun e => s.clears ⟨e.1, e.1, 1, e.1⟩) = true := by
  decide +kernel

lemma expansions_settled : upperExpansions.all (·.2.head?.any isSettled) = true := by
  decide +kernel

lemma isSettled_image {n m : ℕ} (h : Shift.image? n upperShifts = some m) :
    isSettled m = true := by
  obtain ⟨s, hs, hn, rfl⟩ := Shift.exists_of_image? h
  have hruns := List.all_eq_true.mp (List.all_eq_true.mp upperShifts_clears s hs)
  have hlong := List.all_eq_true.mp (List.all_eq_true.mp upperShifts_clears_expansions s hs)
  rw [isSettled, Bool.and_eq_true, Option.isNone_iff_eq_none, Option.isNone_iff_eq_none]
  refine ⟨Shift.image?_eq_none fun t ht => Shift.maps_image_of_clears (hruns t ht) hn,
    List.lookup_eq_none_iff.mpr fun e he => ?_⟩
  have hout := Shift.maps_image_of_clears (hlong e he) hn
  rw [bne_iff_ne]
  intro heq
  rw [heq] at hout
  simp [Shift.maps] at hout

/-- A longer upper case is one of the table. -/
lemma mem_upperExpansions {n : ℕ} {ns : List ℕ} (h : upperExpansions.lookup n = some ns) :
    (n, ns) ∈ upperExpansions := by
  obtain ⟨l₁, l₂, hl, -⟩ := List.lookup_eq_some_iff.mp h
  rw [hl]
  simp

/-- **Upper case is settled**: there is a first character, and it is its own upper case. -/
theorem exists_upper_eq_cons (c : Char) : ∃ u us, upper c = u :: us ∧ upper u = [u] := by
  unfold upper
  split
  · next n hn => exact ⟨_, [], rfl, upper_ofNat (isSettled_image hn)⟩
  · next hnone =>
    split
    · next ns hns =>
      have hfirst := List.all_eq_true.mp expansions_settled _ (mem_upperExpansions hns)
      obtain ⟨n, hn, hsettled⟩ := (Option.any_eq_true _ _).mp hfirst
      obtain ⟨rest, rfl⟩ := List.head?_eq_some_iff.mp hn
      exact ⟨_, _, List.map_cons, upper_ofNat hsettled⟩
    · next hnone' =>
      refine ⟨c, [], rfl, upper_of_isSettled ?_⟩
      rw [isSettled, hnone, hnone']
      rfl

/-! ## Sets that upper case keeps out of -/

/-- Neither a run nor a longer mapping leads into the set. -/
def upperMisses (set : CharSet) : Bool :=
  upperShifts.all (·.misses set) &&
    (upperExpansions.all fun e => e.2.all fun n => !set.contains (Char.ofNat n)) &&
    !set.contains (Char.ofNat 0)

lemma contains_image {s : Shift} {set : CharSet} {n : ℕ} (h : s.misses set = true)
    (hn : s.maps n = true) (hzero : set.contains (Char.ofNat 0) = false) :
    set.contains (Char.ofNat (s.image + (n - s.first))) = false := by
  obtain ⟨hfirst, hlast, -⟩ := Shift.maps_eq_true_iff.mp hn
  rw [CharSet.contains, Char.toNat_ofNat]
  split
  · refine inRanges_eq_false fun r hr => ?_
    have hr := List.all_eq_true.mp h r hr
    simp only [Bool.or_eq_true, decide_eq_true_eq] at hr
    omega
  · exact hzero

/-- **Upper case keeps out of a set**, unless nothing is changed. -/
theorem upper_eq_self_or_notMem {set : CharSet} (h : upperMisses set = true) (c : Char) :
    upper c = [c] ∨ ∀ v ∈ upper c, set.contains v = false := by
  simp only [upperMisses, Bool.and_eq_true, Bool.not_eq_true'] at h
  obtain ⟨⟨hruns, hlong⟩, hzero⟩ := h
  unfold upper
  split
  · next n hn =>
    obtain ⟨s, hs, hmaps, rfl⟩ := Shift.exists_of_image? hn
    refine .inr fun v hv => ?_
    rw [List.mem_singleton.mp hv]
    exact contains_image (List.all_eq_true.mp hruns s hs) hmaps hzero
  · split
    · next ns hns =>
      refine .inr fun v hv => ?_
      obtain ⟨n, hn, rfl⟩ := List.mem_map.mp hv
      have hns' := List.all_eq_true.mp hlong _ (mem_upperExpansions hns)
      simpa using List.all_eq_true.mp hns' n hn
    · exact .inl rfl

end Scratchpad.Unicode
