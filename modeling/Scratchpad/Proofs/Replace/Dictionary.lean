import Scratchpad.Proofs.Replace.PreserveCase
import Scratchpad.Proofs.Replace.Words

/-!
# Rule sets as dictionaries

A rule set that writes no word for which it looks is a dictionary: what its passes do one after the
other can be looked up at once.

* `lookUp`, `lookedFor` — what a dictionary says of a word, and whether it says anything.
* `IsDictionary` — no two rules disagree, and none writes a word for which one looks.
* `IsDictionary.rewrite_eq_lookUp` — what becomes of a word does not depend on the order of the
  rules.
* **`applyRules_of_isDictionary`** — a run looks up every word once.
-/

namespace Scratchpad.Replace

open Text

/-! ## Looking up a word -/

/-- What is written for a word: the same word, if no rule looks for it. -/
def lookUp (rs : List Rule) (w : List Char) : List Char :=
  ((rs.find? (·.pattern.toList = w)).map (·.replacement.toList)).getD w

/-- Whether a rule looks for a word. -/
def lookedFor (rs : List Rule) (w : List Char) : Bool := rs.any (·.pattern.toList = w)

/-- Rules that look for the same word write the same, and no rule writes a word for which one
looks. -/
structure IsDictionary (rs : List Rule) : Prop where
  agree : ∀ r ∈ rs, ∀ s ∈ rs, r.pattern.toList = s.pattern.toList →
    r.replacement.toList = s.replacement.toList
  apart : ∀ r ∈ rs, ∀ s ∈ rs, s.pattern.toList ≠ r.replacement.toList

section

variable {rs rs' : List Rule} {r : Rule} {w : List Char}

lemma lookUp_of_forall_ne (h : ∀ r ∈ rs, r.pattern.toList ≠ w) : lookUp rs w = w := by
  have hnone : rs.find? (·.pattern.toList = w) = none := by simpa using h
  rw [lookUp, hnone]
  rfl

lemma IsDictionary.lookUp_of_mem (h : IsDictionary rs) (hr : r ∈ rs) :
    lookUp rs r.pattern.toList = r.replacement.toList := by
  cases hfind : rs.find? (·.pattern.toList = r.pattern.toList) with
  | none =>
      have hnone := List.find?_eq_none.mp hfind r hr
      simp at hnone
  | some s =>
      have hs := List.mem_of_find?_eq_some hfind
      have heq : s.pattern.toList = r.pattern.toList := by simpa using List.find?_some hfind
      rw [lookUp, hfind, ← h.agree s hs r hr heq]
      rfl

/-- What has been looked up is not looked for any more. -/
lemma IsDictionary.lookUp_lookUp (h : IsDictionary rs) (w : List Char) :
    lookUp rs (lookUp rs w) = lookUp rs w := by
  by_cases hw : ∃ r ∈ rs, r.pattern.toList = w
  · obtain ⟨r, hr, rfl⟩ := hw
    rw [h.lookUp_of_mem hr]
    exact lookUp_of_forall_ne (h.apart r hr)
  · push Not at hw
    rw [lookUp_of_forall_ne hw, lookUp_of_forall_ne hw]

/-! ## Looking up one rule after the other -/

lemma rewrite_of_forall_ne (h : ∀ r ∈ rs, r.pattern.toList ≠ w) :
    rewrite rs w = w ∧ rewrites rs w = 0 := by
  induction rs with
  | nil => exact ⟨rfl, rfl⟩
  | cons r rs ih =>
      have hne : w ∉ [r.pattern.toList] := by simpa using (h r List.mem_cons_self).symm
      obtain ⟨htext, hcount⟩ := ih fun s hs => h s (List.mem_cons_of_mem r hs)
      rw [rewrite, rewrites, swapBy, swap_of_notMem hne, if_neg hne]
      exact ⟨htext, by rw [hcount]⟩

lemma IsDictionary.mono (h : IsDictionary rs) (hsub : ∀ r ∈ rs', r ∈ rs) : IsDictionary rs' where
  agree r hr s hs := h.agree r (hsub r hr) s (hsub s hs)
  apart r hr s hs := h.apart r (hsub r hr) s (hsub s hs)

/-- A word that is looked for is replaced once. -/
lemma IsDictionary.rewrite_of_mem (h : IsDictionary rs) (hr : r ∈ rs) :
    rewrite rs r.pattern.toList = r.replacement.toList ∧ rewrites rs r.pattern.toList = 1 := by
  induction rs with
  | nil => cases hr
  | cons s rs ih =>
      rw [rewrite, rewrites, swapBy]
      by_cases heq : r.pattern.toList ∈ [s.pattern.toList]
      · have hs := h.agree r hr s List.mem_cons_self (List.mem_singleton.mp heq)
        have hapart := fun t ht => h.apart s List.mem_cons_self t (List.mem_cons_of_mem s ht)
        obtain ⟨htext, hcount⟩ := rewrite_of_forall_ne hapart
        rw [swap_of_mem heq, if_pos heq, htext, hcount]
        exact ⟨hs.symm, rfl⟩
      · have hr' : r ∈ rs := by
          rcases List.mem_cons.mp hr with rfl | hr
          · exact absurd (List.mem_singleton.mpr rfl) heq
          · exact hr
        obtain ⟨htext, hcount⟩ := ih (h.mono fun t => List.mem_cons_of_mem s) hr'
        rw [swap_of_notMem heq, if_neg heq, htext, hcount]
        exact ⟨rfl, rfl⟩

/-- **The order of the rules does not matter**, and no word is replaced twice. -/
theorem IsDictionary.rewrite_eq_lookUp (h : IsDictionary rs) (hsame : ∀ r, r ∈ rs' ↔ r ∈ rs)
    (w : List Char) :
    rewrite rs' w = lookUp rs w ∧ rewrites rs' w = if lookedFor rs w then 1 else 0 := by
  by_cases hw : ∃ r ∈ rs, r.pattern.toList = w
  · obtain ⟨r, hr, rfl⟩ := hw
    have hlooked : lookedFor rs r.pattern.toList = true := by
      simpa [lookedFor] using ⟨r, hr, rfl⟩
    rw [h.lookUp_of_mem hr, if_pos hlooked]
    exact (h.mono fun s hs => (hsame s).mp hs).rewrite_of_mem ((hsame r).mpr hr)
  · push Not at hw
    have hlooked : lookedFor rs w = false := by simpa [lookedFor] using hw
    rw [lookUp_of_forall_ne hw, hlooked]
    exact rewrite_of_forall_ne fun s hs => hw s ((hsame s).mp hs)

lemma isWord_lookUp (hrules : ∀ r ∈ rs, IsWordRule r) : ∀ w, IsWord w → IsWord (lookUp rs w) := by
  intro w hw
  cases hfind : rs.find? (·.pattern.toList = w) with
  | none => simpa [lookUp, hfind] using hw
  | some r => simpa [lookUp, hfind] using (hrules r (List.mem_of_find?_eq_some hfind)).replacement

lemma sum_map_ite_eq_countP (p : List Char → Bool) (ws : List (List Char)) :
    (ws.map fun w => if p w then 1 else 0).sum = ws.countP p := by
  induction ws with
  | nil => rfl
  | cons w ws ih => rw [List.map_cons, List.sum_cons, ih, List.countP_cons, Nat.add_comm]

/-- **A run with a dictionary** goes through, whatever the order of its rules.  It looks up every
word of the text, and makes one replacement for each word that is looked for. -/
theorem applyRules_of_isDictionary (hrules : ∀ r ∈ variants rs, IsWordRule r)
    (h : IsDictionary (variants rs)) (hsame : ∀ r, r ∈ rs' ↔ r ∈ rs) {o : Options}
    (hwords : o.wholeWords = true) (hcase : o.preserveCase = true) (text : String) :
    ∃ run, applyRules rs' text o = .ok run ∧
      run.text = .ofList (mapWords (lookUp (variants rs)) text.toList) ∧
      (run.passes.map Pass.matchCount).sum
        = (words text.toList).countP (lookedFor (variants rs)) := by
  have hvariants : ∀ r, r ∈ variants rs' ↔ r ∈ variants rs := by
    simp only [mem_variants, hsame, implies_true]
  have hjobs : ∀ j ∈ jobs true 0 rs', IsWordRule j.applied := by
    intro j hj
    refine hrules _ ((hvariants _).mp ?_)
    rw [← map_applied_jobs 0]
    exact List.mem_map_of_mem hj
  obtain ⟨run, hrun, htext, hcount⟩ := runJobs_words hwords hjobs { text := text }
  have hlook := h.rewrite_eq_lookUp hvariants
  refine ⟨run, ?_, ?_, ?_⟩
  · rw [applyRules, Run.rules_eq_runJobs, hcase]
    exact hrun
  · rw [htext, map_applied_jobs]
    exact congrArg String.ofList (mapWords_congr fun w _ => (hlook w).1)
  · rw [hcount, map_applied_jobs, funext fun w => (hlook w).2, sum_map_ite_eq_countP]
    exact Nat.zero_add _

end

end Scratchpad.Replace
