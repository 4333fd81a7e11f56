import Scratchpad.Proofs.Replace.LogReplay

/-!
# What a run records

A run records every pass, and it logs those that have found something.  Which passes there are is
settled beforehand by the number of rules.

* `schedule`, `places_of_applyRules` — the passes that a run makes, in their order.
* `Log.total_eq_sum`, `sum_productive` — passes that have found nothing count for nothing.
* **`applyRules_record`** — passes, log and text belong together.
-/

namespace Scratchpad

variable {o : Options} {rs : List Rule}

/-! ## Every pass is made -/

/-- The variants in which a rule is applied, in their order. -/
def variantsUnder (preserveCase : Bool) : List Variant :=
  .asWritten :: if preserveCase then [.capitalized] else []

/-- The passes that rules ask for, each by the index of its rule and by its variant. -/
def schedule (preserveCase : Bool) (rules : ℕ) : List (ℕ × Variant) :=
  (List.range rules).flatMap fun index => (variantsUnder preserveCase).map (index, ·)

/-- Where case is not preserved, there is one pass for each rule. -/
lemma schedule_false (rules : ℕ) :
    schedule false rules = (List.range rules).map (·, .asWritten) :=
  List.map_eq_flatMap.symm

lemma ruleJobs_eq_map (preserveCase : Bool) (index : ℕ) (rule : Rule) :
    ruleJobs preserveCase index rule
      = (variantsUnder preserveCase).map (⟨index, rule, ·⟩) := by
  cases preserveCase <;> rfl

lemma places_jobs (preserveCase : Bool) (index : ℕ) (rs : List Rule) :
    (jobs preserveCase index rs).map (fun j => (j.index, j.variant))
      = (List.range' index rs.length).flatMap
          fun i => (variantsUnder preserveCase).map (i, ·) := by
  induction rs generalizing index with
  | nil => rfl
  | cons r rs ih =>
      rw [jobs, List.map_append, ih, List.length_cons, List.range'_succ, List.flatMap_cons,
        ruleJobs_eq_map, List.map_map]
      rfl

/-- A run that goes through has made the pass of every job. -/
lemma places_of_runJobs {js : List Job} {r r' : Run} (h : r.runJobs o js = .ok r') :
    r'.passes.map (fun p => (p.ruleIndex, p.variant))
      = r.passes.map (fun p => (p.ruleIndex, p.variant)) ++
          js.map (fun j => (j.index, j.variant)) := by
  induction js generalizing r with
  | nil =>
      cases h
      simp
  | cons j js ih =>
      obtain ⟨c, -, hrest⟩ := (Run.runJobs_cons_eq_ok_iff o).mp h
      rw [ih hrest]
      simp [Run.after]

/-- **No rule is skipped.** -/
theorem places_of_applyRules {subject : String} {run : Run}
    (h : applyRules rs subject o = .ok run) :
    run.passes.map (fun p => (p.ruleIndex, p.variant)) = schedule o.preserveCase rs.length := by
  rw [applyRules, Run.rules_eq_runJobs] at h
  rw [places_of_runJobs h, places_jobs, schedule, List.range_eq_range']
  rfl

/-! ## What is counted -/

lemma Log.total_eq_sum (l : Log) : l.total = (l.map (·.matchCount)).sum := by
  rw [List.sum_eq_foldl_nat, List.foldl_map]
  rfl

/-- Passes that have found nothing count for nothing. -/
lemma sum_productive (run : Run) :
    (run.productive.map (·.matchCount)).sum = (run.passes.map (·.matchCount)).sum := by
  unfold Run.productive
  induction run.passes with
  | nil => rfl
  | cons p ps ih =>
      by_cases hp : p.isProductive = true
      · simp [hp, ih]
      · have hzero : p.matchCount = 0 := by simpa [Pass.isProductive] using hp
        simp [hp, hzero, ih]

/-! ## Passes and log -/

/-- What is logged of a pass, out of the rule set that was run. -/
def Pass.entry? (rules : List Rule) (p : Pass) : Option LogEntry :=
  (p.rule? rules).map fun r => ⟨p.ruleIndex, p.matchCount, r.describe⟩

/-- **Passes, log and text belong together.**  What is logged has no part in the text, in the passes
or in a failure.  A run that goes through has made every pass, and its log has an entry for each
pass that has found something, or no entry at all. -/
theorem applyRules_record (rs : List Rule) (subject : String) (o : Options) :
    (∀ log, (applyRules rs subject { o with log := log }).map (fun run => (run.text, run.passes))
      = (applyRules rs subject o).map fun run => (run.text, run.passes)) ∧
    ∀ run, applyRules rs subject o = .ok run →
      run.passes.map (fun p => (p.ruleIndex, p.variant)) = schedule o.preserveCase rs.length ∧
      (o.log = false → run.log = []) ∧
      (o.log = true → run.log.map some = run.productive.map (Pass.entry? rs) ∧
        run.log.total = (run.passes.map (·.matchCount)).sum) := by
  refine ⟨fun log => Run.map_applyRules o (fun _ => rfl) log rs subject, fun run h => ?_⟩
  refine ⟨places_of_applyRules h, ?_⟩
  rw [applyRules, Run.rules_eq_runJobs] at h
  obtain ⟨hs, -, hsub, hproductive, hlog⟩ := Run.hits_of_runJobs o h
  refine ⟨fun ho => by simpa [ho] using hlog, fun ho => ?_⟩
  have hproductive : run.productive = hs.map hitPass := hproductive
  have hlog : run.log = hs.map hitEntry := by simpa [ho] using hlog
  refine ⟨?_, ?_⟩
  · rw [hlog, hproductive, List.map_map, List.map_map]
    refine List.map_congr_left fun x hx => ?_
    have hmem := hsub.subset (List.mem_map_of_mem hx)
    rw [Function.comp_apply, Function.comp_apply, Pass.entry?, rule?_hitPass hmem]
    rfl
  · rw [Log.total_eq_sum, ← sum_productive, hlog, hproductive, List.map_map, List.map_map]
    rfl

/-- A rule that finds something as written and capitalized, and a rule that finds nothing. -/
theorem applyRules_record_capitalized :
    let rules : List Rule := [{ pattern := "du", replacement := "ich" },
      { pattern := "nie", replacement := "x" }]
    ∃ run, applyRules rules "du und Du" ⟨false, true, true⟩ = .ok run ∧
      run.passes.map (fun p => (p.ruleIndex, p.variant))
        = [(0, .asWritten), (0, .capitalized), (1, .asWritten), (1, .capitalized)] ∧
      run.log.map some = run.productive.map (Pass.entry? rules) ∧ run.log.total = 2 := by
  intro rules
  let run : Run := ⟨"ich und Ich", [⟨0, 1, "\"du\"->\"ich\""⟩, ⟨0, 1, "\"Du\"->\"Ich\""⟩],
    [⟨0, .asWritten, 1⟩, ⟨0, .capitalized, 1⟩, ⟨1, .asWritten, 0⟩, ⟨1, .capitalized, 0⟩]⟩
  have hrun : applyRules rules "du und Du" ⟨false, true, true⟩ = .ok run := by decide +kernel
  obtain ⟨hplaces, -, hlogged⟩ :=
    (applyRules_record rules "du und Du" ⟨false, true, true⟩).2 run hrun
  obtain ⟨hentries, htotal⟩ := hlogged rfl
  exact ⟨run, hrun, hplaces, hentries, htotal⟩

end Scratchpad
