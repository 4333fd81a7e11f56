import Mathlib
import Scratchpad.Pattern.Search

/-!
# The ways on from a thread

A thread goes on in the order of the program's choices, and so there is a list of the accepted
threads that it comes to, the first one first.  The list is there whenever no way goes on for ever.

* `Thread.Ends` — every way on from a thread ends within a number of steps, inside of the program.
* `Thread.accepted` — the accepted threads that can be reached within a number of steps, in order.
* `Runs` — every way ends, and these are the accepted threads.
* `Runs.of_accept`, `Runs.of_successors` — where the list comes from.
* `successors_withMarks`, `ends_withMarks` — marks are carried along, and decide nothing.
-/

namespace Scratchpad.Pattern

variable (program : Array Instr) (text : Array Char)

namespace Thread

/-- Every way on from the thread ends within `n` steps and stays inside of the program. -/
def Ends : (n : ℕ) → Thread → Prop
  | 0, _ => False
  | n + 1, t => t.address < program.size ∧
      ∀ ts, t.successors program text = some ts → ∀ s ∈ ts, Ends n s

/-- The accepted threads that are reached within `n` steps, in the order in which they are tried. -/
def accepted : (n : ℕ) → Thread → List Thread
  | 0, _ => []
  | n + 1, t =>
    match t.successors program text with
    | none => [t]
    | some ts => ts.flatMap (accepted n)

variable {program text} {t : Thread} {n m : ℕ}

lemma Ends.mono (h : t.Ends program text n) (hnm : n ≤ m) : t.Ends program text m := by
  induction n generalizing t m with
  | zero => exact h.elim
  | succ n ih =>
      obtain ⟨m, rfl⟩ : ∃ k, m = k + 1 := ⟨m - 1, by omega⟩
      exact ⟨h.1, fun ts hts s hs => ih (h.2 ts hts s hs) (by omega)⟩

/-- More steps make no difference once every way has ended. -/
lemma Ends.accepted_eq (h : t.Ends program text n) (hnm : n ≤ m) :
    t.accepted program text m = t.accepted program text n := by
  induction n generalizing t m with
  | zero => exact h.elim
  | succ n ih =>
      obtain ⟨m, rfl⟩ : ∃ k, m = k + 1 := ⟨m - 1, by omega⟩
      rw [accepted, accepted]
      cases hts : t.successors program text with
      | none => rfl
      | some ts => exact List.flatMap_congr fun s hs => ih (h.2 ts hts s hs) (by omega)

/-! ## Marks -/

/-- The thread, with these marks passed before its own. -/
def withMarks (marks : List (ℕ × ℕ)) (t : Thread) : Thread := { t with marks := t.marks ++ marks }

lemma successors_withMarks (marks : List (ℕ × ℕ)) (t : Thread) :
    (t.withMarks marks).successors program text =
      (t.successors program text).map (List.map (withMarks marks)) := by
  obtain ⟨address, place, own⟩ := t
  simp only [successors, withMarks]
  cases program[address]? with
  | none => rfl
  | some i =>
      cases i with
      | chars set =>
          dsimp only
          cases text[place]? with
          | none => rfl
          | some c => by_cases h : set.contains c <;> simp [h, withMarks]
      | look l => by_cases h : l.holds (before? text place) text[place]? <;> simp [h, withMarks]
      | split first second => rfl
      | jump target => rfl
      | mark slot => rfl
      | accept => rfl

/-- Marks do not decide whether the ways end. -/
lemma ends_withMarks (marks : List (ℕ × ℕ)) :
    (t.withMarks marks).Ends program text n ↔ t.Ends program text n := by
  induction n generalizing t with
  | zero => rfl
  | succ n ih =>
      simp only [Ends, successors_withMarks, Option.map_eq_some_iff]
      constructor
      · rintro ⟨haddr, h⟩
        exact ⟨haddr, fun ts hts s hs => ih.mp (h _ ⟨ts, hts, rfl⟩ _ (List.mem_map_of_mem hs))⟩
      · rintro ⟨haddr, h⟩
        refine ⟨haddr, ?_⟩
        rintro _ ⟨ts, hts, rfl⟩ _ hmem
        obtain ⟨s, hs, rfl⟩ := List.mem_map.mp hmem
        exact ih.mpr (h ts hts s hs)

lemma eq_withMarks (t : Thread) : t = withMarks t.marks ⟨t.address, t.place, []⟩ := by
  simp [withMarks]

/-- Of two threads at one point, the ways of both end or those of neither do. -/
lemma ends_iff_of_same_point {t t' : Thread} (haddr : t.address = t'.address)
    (hplace : t.place = t'.place) : t.Ends program text n ↔ t'.Ends program text n := by
  rw [t.eq_withMarks, t'.eq_withMarks, ends_withMarks, ends_withMarks, haddr, hplace]

/-- There is a least number of steps within which the ways end. -/
lemma Ends.exists_last (h : t.Ends program text n) :
    ∃ j, ¬ t.Ends program text j ∧ t.Ends program text (j + 1) := by
  induction n with
  | zero => exact h.elim
  | succ n ih =>
      by_cases hn : t.Ends program text n
      · exact ih hn
      · exact ⟨n, hn, h⟩

/-- The ways of the successors of a thread end one step earlier. -/
lemma Ends.of_successors {ts : List Thread} (h : t.Ends program text (n + 1))
    (hts : t.successors program text = some ts) {s : Thread} (hs : s ∈ ts) :
    s.Ends program text n := h.2 ts hts s hs

lemma Ends.accepted_eq_self (h : t.Ends program text n)
    (hts : t.successors program text = none) : t.accepted program text n = [t] := by
  cases n with
  | zero => exact h.elim
  | succ n => rw [accepted, hts]

end Thread

/-- Every way on from the thread ends, and the accepted threads are those of the list, in the order
in which they are tried. -/
def Runs (t : Thread) (accepted : List Thread) : Prop :=
  ∃ n, t.Ends program text n ∧ t.accepted program text n = accepted

namespace Runs

variable {program text} {t : Thread}

/-- An accepted thread is the only one it comes to. -/
lemma of_accept (h : program[t.address]? = some .accept) : Runs program text t [t] := by
  have hnone : t.successors program text = none := by simp [Thread.successors, h]
  obtain ⟨haddr, -⟩ := Array.getElem?_eq_some_iff.mp h
  refine ⟨1, ⟨haddr, fun ts hts => ?_⟩, ?_⟩
  · rw [hnone] at hts
    cases hts
  · rw [Thread.accepted, hnone]

/-- The ways on from some threads all end within the same number of steps. -/
lemma exists_common {ts : List Thread} {Ls : List (List Thread)}
    (h : List.Forall₂ (Runs program text) ts Ls) :
    ∃ n, (∀ s ∈ ts, s.Ends program text n) ∧
      ts.flatMap (Thread.accepted program text n) = Ls.flatten := by
  induction h with
  | nil => exact ⟨0, by simp⟩
  | cons hs _ ih =>
      obtain ⟨n, hends, hacc⟩ := ih
      obtain ⟨m, hm, rfl⟩ := hs
      have hmax := le_max_left n m
      refine ⟨max n m, fun s hs => ?_, ?_⟩
      · rcases List.mem_cons.mp hs with rfl | hs
        · exact hm.mono (le_max_right n m)
        · exact (hends s hs).mono hmax
      · rw [List.flatMap_cons, List.flatten_cons, hm.accepted_eq (le_max_right n m), ← hacc,
          List.flatMap_congr fun s hs => (hends s hs).accepted_eq hmax]

/-- Any other thread comes to what its successors come to, one after the other. -/
lemma of_successors {ts : List Thread} {Ls : List (List Thread)}
    (hts : t.successors program text = some ts) (haddr : t.address < program.size)
    (h : List.Forall₂ (Runs program text) ts Ls) : Runs program text t Ls.flatten := by
  obtain ⟨n, hends, hacc⟩ := exists_common h
  refine ⟨n + 1, ⟨haddr, fun ts' hts' s hs => ?_⟩, ?_⟩
  · rw [hts] at hts'
    cases hts'
    exact hends s hs
  · rw [Thread.accepted, hts]
    exact hacc

end Runs

end Scratchpad.Pattern
