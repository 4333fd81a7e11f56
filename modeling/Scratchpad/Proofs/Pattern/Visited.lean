import Mathlib
import Scratchpad.Pattern.Search

/-!
# The points that a search visits

A search remembers at which addresses and places threads have been, one bit for each.  Every round
visits one point more, so that a search comes to an end.

* `Visited.contains_insert`, `Visited.contains_none` — the points as a set.
* `Thread.InRange`, `InRange.eq_of_point_eq` — each point in range belongs to one address and place.
* `Thread.place_of_successors` — no way leads back, or out of the text.
* `unvisited`, `unvisited_insert_lt` — how many rounds are left at most.
-/

namespace Scratchpad.Pattern

/-! ## Points -/

namespace Visited

lemma contains_none (n point : ℕ) : (none n).contains point = false := by
  rw [contains, none, Array.getElem?_replicate]
  split <;> simp

/-- A point that is put in is in, and nothing else changes. -/
lemma contains_insert (v : Visited) {point : ℕ} (h : point / wordSize < v.words.size) (q : ℕ) :
    (v.insert point).contains q = (v.contains q || point == q) := by
  have hq := Nat.div_add_mod q wordSize
  have hpoint := Nat.div_add_mod point wordSize
  rw [contains, contains, insert, Array.getElem?_modify]
  by_cases hword : point / wordSize = q / wordSize
  · rw [if_pos hword, Array.getElem?_eq_getElem (hword ▸ h)]
    simp only [Option.map_some, Option.getD_some, Nat.testBit_or, Nat.one_shiftLeft,
      Nat.testBit_two_pow]
    congr 1
    by_cases hbit : point % wordSize = q % wordSize
    · have : point = q := by rw [← hq, ← hpoint, hword, hbit]
      simp [this]
    · have : point ≠ q := fun heq => hbit (by rw [heq])
      simp [this, hbit]
  · have : point ≠ q := fun heq => hword (by rw [heq])
    simp [hword, this]

@[simp]
lemma size_insert (v : Visited) (point : ℕ) : (v.insert point).words.size = v.words.size := by
  simp [insert]

end Visited

/-- The number of points from the place `origin` on. -/
def pointCount (program : Array Instr) (text : Array Char) (origin : ℕ) : ℕ :=
  (text.size + 1 - origin) * program.size

namespace Thread

/-- The thread is inside of the program and of the text from `origin` on. -/
structure InRange (program : Array Instr) (text : Array Char) (origin : ℕ) (t : Thread) : Prop where
  address : t.address < program.size
  origin : origin ≤ t.place
  place : t.place ≤ text.size

variable {program : Array Instr} {text : Array Char} {origin : ℕ} {t t' : Thread}

lemma InRange.point_lt (h : t.InRange program text origin) :
    t.point program.size origin < pointCount program text origin := by
  have hplace : t.place - origin + 1 ≤ text.size + 1 - origin := by
    have := h.origin
    have := h.place
    omega
  calc t.point program.size origin
      < (t.place - origin) * program.size + program.size := Nat.add_lt_add_left h.address _
    _ = (t.place - origin + 1) * program.size := (Nat.succ_mul _ _).symm
    _ ≤ pointCount program text origin := Nat.mul_le_mul_right _ hplace

/-- A point belongs to one address and one place only. -/
lemma InRange.eq_of_point_eq (h : t.InRange program text origin)
    (h' : t'.InRange program text origin)
    (hpoint : t.point program.size origin = t'.point program.size origin) :
    t.address = t'.address ∧ t.place = t'.place := by
  unfold point at hpoint
  have hpos : 0 < program.size := by have := h.address; omega
  have haddr := congrArg (· % program.size) hpoint
  simp only [Nat.mul_add_mod_of_lt h.address, Nat.mul_add_mod_of_lt h'.address] at haddr
  rw [haddr] at hpoint
  have hplace := Nat.eq_of_mul_eq_mul_right hpos (Nat.add_right_cancel hpoint)
  have := h.origin
  have := h'.origin
  exact ⟨haddr, by omega⟩

/-- The ways on lead to places behind, and not out of the text. -/
lemma place_of_successors {ts : List Thread} (hts : t.successors program text = some ts)
    {s : Thread} (hs : s ∈ ts) :
    t.place ≤ s.place ∧ (t.place ≤ text.size → s.place ≤ text.size) := by
  unfold successors at hts
  cases hi : program[t.address]? with
  | none =>
      rw [hi] at hts
      cases hts
      cases hs
  | some i =>
      rw [hi] at hts
      cases i with
      | chars set =>
          cases hc : text[t.place]? with
          | none =>
              rw [hc] at hts
              cases hts
              cases hs
          | some c =>
              obtain ⟨hlt, -⟩ := Array.getElem?_eq_some_iff.mp hc
              simp only [hc, Option.some.injEq] at hts
              subst hts
              split at hs
              · rw [List.mem_singleton.mp hs]
                exact ⟨Nat.le_succ _, fun _ => hlt⟩
              · cases hs
      | look l =>
          simp only [Option.some.injEq] at hts
          subst hts
          split at hs
          · rw [List.mem_singleton.mp hs]
            exact ⟨le_rfl, id⟩
          · cases hs
      | split first second =>
          cases hts
          simp only [List.mem_cons, List.not_mem_nil, or_false] at hs
          rcases hs with rfl | rfl <;> exact ⟨le_rfl, id⟩
      | jump target =>
          cases hts
          rw [List.mem_singleton.mp hs]
          exact ⟨le_rfl, id⟩
      | mark slot =>
          cases hts
          rw [List.mem_singleton.mp hs]
          exact ⟨le_rfl, id⟩
      | accept => cases hts

end Thread

/-! ## The points that are left -/

section

variable {program : Array Instr} {text : Array Char} {origin : ℕ} {v : Visited}

/-- The number of points that have not been visited. -/
def unvisited (program : Array Instr) (text : Array Char) (origin : ℕ) (v : Visited) : ℕ :=
  ((Finset.range (pointCount program text origin)).filter fun i => v.contains i = false).card

lemma unvisited_le (v : Visited) :
    unvisited program text origin v ≤ pointCount program text origin := by
  unfold unvisited
  exact (Finset.card_filter_le _ _).trans_eq (Finset.card_range _)

/-- Every round visits a new point. -/
lemma unvisited_insert_lt {point : ℕ} (hroom : point / Visited.wordSize < v.words.size)
    (hlt : point < pointCount program text origin) (hnew : v.contains point = false) :
    unvisited program text origin (v.insert point) < unvisited program text origin v := by
  refine Finset.card_lt_card ⟨fun i hi => ?_, fun hsub => ?_⟩
  · simp only [Finset.mem_filter, v.contains_insert hroom, Bool.or_eq_false_iff] at hi ⊢
    exact ⟨hi.1, hi.2.1⟩
  · have hmem := hsub (Finset.mem_filter.mpr ⟨Finset.mem_range.mpr hlt, hnew⟩)
    simp [v.contains_insert hroom] at hmem

end

end Scratchpad.Pattern
