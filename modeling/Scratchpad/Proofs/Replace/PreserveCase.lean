import Scratchpad.Proofs.Replace.Record

/-!
# Preserving case is running more rules

A run that preserves case does what a plain run does with twice as many rules: each one as it is
written, and behind it the same rule with its first letters in upper case.  Only the numbers tell
the two runs apart, for both rules of a pair are counted as one.

* `variants` — the rules that are run.
* `Pass.folded`, `Run.folded` — what a plain run with them records, in the numbers of the rules that
  they come from.
* `forall₂_jobs_variants`, `ofRule_folded`, `after_folded` — the jobs side by side, and one pass.
* **`applyRules_variants`** — the two runs go alike.
-/

namespace Scratchpad

open Replace (CompiledRule)

/-! ## The rules that are run -/

namespace Replace

/-- Every rule as it is written, followed by its capitalized variant. -/
def variants (rs : List Rule) : List Rule :=
  rs.flatMap fun r => [r.variant .asWritten, r.variant .capitalized]

lemma mem_variants {rs : List Rule} {r : Rule} :
    r ∈ variants rs ↔ ∃ s ∈ rs, ∃ v, s.variant v = r := by
  simp only [variants, List.mem_flatMap, List.mem_cons, List.not_mem_nil, or_false]
  constructor
  · rintro ⟨s, hs, h | h⟩
    · exact ⟨s, hs, .asWritten, h.symm⟩
    · exact ⟨s, hs, .capitalized, h.symm⟩
  · rintro ⟨s, hs, v, rfl⟩
    cases v
    · exact ⟨s, hs, .inl rfl⟩
    · exact ⟨s, hs, .inr rfl⟩

lemma map_applied_jobs (index : ℕ) (rs : List Rule) :
    (jobs true index rs).map Job.applied = variants rs := by
  induction rs generalizing index with
  | nil => rfl
  | cons r rs ih =>
      rw [jobs, List.map_append, ih]
      rfl

end Replace

open Replace (variants)

/-! ## Two rules as one -/

/-- The variant of its rule that the pass with a number applies. -/
def variantAt (pass : ℕ) : Variant := if pass % 2 = 0 then .asWritten else .capitalized

/-- A pass with one rule of a pair, as a pass with the rule that they come from. -/
def Pass.folded (p : Pass) : Pass := ⟨p.ruleIndex / 2, variantAt p.ruleIndex, p.matchCount⟩

/-- An entry for one rule of a pair, as an entry for the rule that they come from. -/
def LogEntry.folded (e : LogEntry) : LogEntry := { e with ruleIndex := e.ruleIndex / 2 }

/-- A failure of one rule of a pair, as a failure of the rule that they come from. -/
def Error.folded : Error → Error := .renumbered (· / 2)

/-- A run with pairs of rules, as a run with the rules that they come from. -/
def Run.folded (r : Run) : Run where
  text := r.text
  log := r.log.map (·.folded)
  passes := r.passes.map (·.folded)

/-- The job of one rule of a pair beside the job of the rule that they come from. -/
def Job.IsFolded (j j' : Job) : Prop :=
  j.rule = j'.applied ∧ j.variant = .asWritten ∧ j'.index = j.index / 2 ∧
    j'.variant = variantAt j.index

lemma forall₂_jobs_variants (index : ℕ) (rs : List Rule) :
    List.Forall₂ Job.IsFolded (jobs false (2 * index) (variants rs)) (jobs true index rs) := by
  induction rs generalizing index with
  | nil => exact .nil
  | cons r rs ih =>
      have heven : Job.IsFolded ⟨2 * index, r.variant .asWritten, .asWritten⟩
          ⟨index, r, .asWritten⟩ := ⟨rfl, rfl, by dsimp only; omega, by simp [variantAt]⟩
      have hodd : Job.IsFolded ⟨2 * index + 1, r.variant .capitalized, .asWritten⟩
          ⟨index, r, .capitalized⟩ := ⟨rfl, rfl, by dsimp only; omega, by simp [variantAt]⟩
      exact .cons heven (.cons hodd (ih (index + 1)))

/-- A variant is compiled like a rule of its own, under half of its index. -/
lemma ofRule_folded {j j' : Job} (h : j.IsFolded j') (wholeWords : Bool) :
    CompiledRule.ofRule j'.index j'.rule j'.variant wholeWords
      = (CompiledRule.ofRule j.index j.rule j.variant wholeWords).mapError Error.folded := by
  obtain ⟨hrule, hvariant, hindex, -⟩ := h
  rw [hrule, hvariant, Job.applied, ofRule_asWritten, hindex]
  exact ofRule_renumbered (· / 2) j.index j'.rule j'.variant wholeWords

/-- A pass leaves the same, in the numbers of the rules that the pairs come from. -/
lemma after_folded (o : Options) (index : ℕ) (variant : Variant) (c : CompiledRule) (r : Run) :
    r.folded.after { o with preserveCase := true } (index / 2) (variantAt index) c
      = (r.after { o with preserveCase := false } index variant c).folded := by
  have htext : r.folded.text = r.text := rfl
  simp only [Run.after, htext]
  by_cases hlogged : (c.replaceIn r.text).1 ≠ 0 ∧ o.log <;>
    simp [hlogged, Run.folded, Pass.folded, LogEntry.folded]

/-- One pass goes as the other one. -/
lemma pass_folded {j j' : Job} (h : j.IsFolded j') (o : Options) (r : Run) :
    r.folded.pass { o with preserveCase := true } j'.index j'.rule j'.variant
      = ((r.pass { o with preserveCase := false } j.index j.rule j.variant).map
          Run.folded).mapError Error.folded := by
  refine Run.pass_alike (ofRule_folded h o.wholeWords) fun c => ?_
  obtain ⟨-, -, hindex, hvariant⟩ := h
  rw [hindex, hvariant]
  exact after_folded o j.index j.variant c r

/-- **A run that preserves case is a plain run** with the variants of the rules, in the numbers of
the rules themselves. -/
theorem applyRules_eq_folded (rs : List Rule) (subject : String) (o : Options) :
    applyRules rs subject { o with preserveCase := true }
      = ((applyRules (variants rs) subject { o with preserveCase := false }).map
          Run.folded).mapError Error.folded := by
  have hjobs := (forall₂_jobs_variants 0 rs).imp fun j j' h => pass_folded h o
  unfold applyRules
  rw [Run.rules_eq_runJobs, Run.rules_eq_runJobs]
  exact Run.runJobs_alike hjobs { text := subject }

/-! ## Pass by pass -/

/-- A plain run makes one pass for each rule. -/
lemma ruleIndex_of_getElem? {o : Options} {rs : List Rule} {subject : String} {run : Run} {n : ℕ}
    {p : Pass} (ho : o.preserveCase = false) (h : applyRules rs subject o = .ok run)
    (hp : run.passes[n]? = some p) : p.ruleIndex = n := by
  have hplace : (schedule false rs.length)[n]? = some (p.ruleIndex, p.variant) := by
    rw [← ho, ← places_of_applyRules h, List.getElem?_map, hp]
    rfl
  rw [schedule_false, List.getElem?_map, Option.map_eq_some_iff] at hplace
  obtain ⟨i, hi, heq⟩ := hplace
  obtain ⟨hlt, rfl⟩ := List.getElem?_eq_some_iff.mp hi
  rw [← (Prod.mk.inj heq).1, List.getElem_range]

/-- **Preserving case is running more rules.**  The run with case preserved and the plain run with
the variants of the rules both go through or both fail.  They leave the same text; the pass with an
even number applies its rule as written and the one behind it the capitalized rule, with the same
numbers of matches; and the entries of the log and the failures differ in nothing but the number of
the rule. -/
theorem applyRules_variants (rs : List Rule) (subject : String) (o : Options) :
    match applyRules rs subject { o with preserveCase := true },
        applyRules (variants rs) subject { o with preserveCase := false } with
    | .ok a, .ok b =>
        a.text = b.text ∧
        a.passes = b.passes.mapIdx (fun n p => ⟨n / 2, variantAt n, p.matchCount⟩) ∧
        a.log = b.log.map (·.folded)
    | .error e, .error f => e = f.folded
    | _, _ => False := by
  rw [applyRules_eq_folded]
  cases h : applyRules (variants rs) subject { o with preserveCase := false } with
  | error e => rfl
  | ok b =>
      refine ⟨rfl, ?_, rfl⟩
      refine List.ext_getElem? fun n => ?_
      rw [Run.folded, List.getElem?_map, List.getElem?_mapIdx]
      cases hp : b.passes[n]? with
      | none => rfl
      | some p =>
          have hindex := ruleIndex_of_getElem? rfl h hp
          rw [Option.map_some, Option.map_some, Pass.folded, hindex]

end Scratchpad
