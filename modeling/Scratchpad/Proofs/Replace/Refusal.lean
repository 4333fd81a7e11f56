import Scratchpad.Proofs.Replace.Record

/-!
# Rules that are refused

Whether and how a run fails is settled by its rules and by its options.  The first rule that has
something wrong with it is the one that is refused: for its first flag letter that is not known, or
else for the first of its patterns that does not compile.

* `flagLetters`, `PatternFlags.ofLetters_eq` — the known letters, and the flags that they ask for.
* `Rule.unknownFlag?`, `Rule.rejection?`, `Rule.fault?` — what is wrong with a rule.
* `firstFault?`, `firstFault?_eq_some_iff` — the first fault in a list of rules.
* `runJobs_eq_error_iff` — jobs fail for the first of them that has something wrong with it.
* **`applyRules_refusal`** — a run fails for the first fault, whatever the text.
-/

namespace Scratchpad

open Pattern (Regex PatternError)
open Replace (CompiledRule effectivePattern)

/-! ## Flag letters -/

/-- The letters that are known. -/
def flagLetters : List Char := ['g', 'i', 'm', 's', 'u']

namespace PatternFlags

/-- The flags that known letters ask for. -/
def asked (letters : String) : PatternFlags :=
  if letters.isEmpty then default
  else
    { ignoreCase := 'i' ∈ letters.toList
      multiLine := 'm' ∈ letters.toList
      dotAll := 's' ∈ letters.toList }

lemma addLetter?_eq (f : PatternFlags) (c : Char) :
    f.addLetter? c =
      if c ∈ flagLetters then
        some ⟨'i' = c || f.ignoreCase, 'm' = c || f.multiLine, 's' = c || f.dotAll⟩
      else none := by
  by_cases hc : c ∈ flagLetters
  · rw [if_pos hc]
    simp only [flagLetters, List.mem_cons, List.not_mem_nil, or_false] at hc
    rcases hc with rfl | rfl | rfl | rfl | rfl <;> rfl
  · rw [if_neg hc]
    simp only [flagLetters, List.mem_cons, List.not_mem_nil, or_false, not_or] at hc
    obtain ⟨hg, hi, hm, hs, hu⟩ := hc
    simp [addLetter?, hg, hi, hm, hs, hu]

/-- Letters are read up to the first one that is not known. -/
lemma addLetters_eq (f : PatternFlags) (cs : List Char) :
    f.addLetters cs =
      match cs.find? (· ∉ flagLetters) with
      | some letter => .error letter
      | none => .ok ⟨'i' ∈ cs || f.ignoreCase, 'm' ∈ cs || f.multiLine, 's' ∈ cs || f.dotAll⟩ := by
  induction cs generalizing f with
  | nil => simp [addLetters]
  | cons c cs ih =>
      rw [addLetters, addLetter?_eq]
      by_cases hc : c ∈ flagLetters
      · simp only [hc, if_true, ih, List.find?_cons, not_true, decide_false]
        cases cs.find? (· ∉ flagLetters) with
        | some letter => rfl
        | none => simp [Bool.or_left_comm, Bool.or_assoc]
      · simp [hc]

/-- **Letters stand for the flags that they ask for**, if all of them are known. -/
theorem ofLetters_eq (letters : String) :
    ofLetters letters =
      match letters.toList.find? (· ∉ flagLetters) with
      | some letter => .error letter
      | none => .ok (asked letters) := by
  unfold ofLetters asked
  by_cases h : letters.isEmpty = true
  · have hnil : letters.toList = [] := by simpa using h
    simp [h, hnil]
  · simp only [h, Bool.false_eq_true, if_false, addLetters_eq, Bool.or_false]

end PatternFlags

/-! ## What is wrong with a rule -/

namespace Rule

/-- The first flag letter of a rule that is not known. -/
def unknownFlag? (r : Rule) : Option Char := r.patternFlags.toList.find? (· ∉ flagLetters)

/-- Why the pattern of a variant is rejected, together with the flags of its rule, and for whole
words if so wished. -/
def rejection? (r : Rule) (o : Options) (variant : Variant) : Option PatternError :=
  match Regex.compile
      (effectivePattern (.asked r.patternFlags) o.wholeWords (r.variant variant).pattern) with
  | .error reason => some reason
  | .ok _ => none

/-- What is wrong with a rule: a flag letter, or else the first of its patterns that is rejected. -/
def fault? (o : Options) (index : ℕ) (r : Rule) : Option Error :=
  match r.unknownFlag? with
  | some letter => some (.unknownFlag index letter)
  | none => (variantsUnder o.preserveCase).findSome? fun variant =>
      (r.rejection? o variant).map (.invalidPattern index (r.variant variant).pattern)

/-- One of the flag letters is not known, or one of the patterns is rejected. -/
def IsFaulty (o : Options) (r : Rule) : Prop :=
  (∃ letter ∈ r.patternFlags.toList, letter ∉ flagLetters) ∨
    ∃ variant ∈ variantsUnder o.preserveCase, r.rejection? o variant ≠ none

lemma fault?_ne_none_iff {o : Options} {index : ℕ} {r : Rule} :
    r.fault? o index ≠ none ↔ r.IsFaulty o := by
  unfold fault? unknownFlag? IsFaulty
  cases h : r.patternFlags.toList.find? (· ∉ flagLetters) with
  | some letter =>
      have hletter : letter ∉ flagLetters := by simpa using List.find?_some h
      simpa using Or.inl ⟨letter, List.mem_of_find?_eq_some h, hletter⟩
  | none =>
      have hknown : ¬ ∃ letter ∈ r.patternFlags.toList, letter ∉ flagLetters := by
        simpa using List.find?_eq_none.mp h
      simp [hknown]

end Rule

/-! ## The first fault -/

section

variable {o : Options} {index : ℕ} {rs : List Rule} {e : Error}

/-- The first fault in a list of rules, the first of which has the given index. -/
def firstFault? (o : Options) : (index : ℕ) → List Rule → Option Error
  | _, [] => none
  | index, r :: rs => (r.fault? o index).or (firstFault? o (index + 1) rs)

/-- The first fault is that of the rule with the smallest index that has one. -/
lemma firstFault?_eq_some_iff :
    firstFault? o index rs = some e ↔
      ∃ (i : ℕ) (r : Rule), rs[i]? = some r ∧ r.fault? o (index + i) = some e ∧
        ∀ j < i, ∀ s : Rule, rs[j]? = some s → s.fault? o (index + j) = none := by
  induction rs generalizing index with
  | nil => simp [firstFault?]
  | cons r rs ih =>
      have hindex : ∀ n, index + 1 + n = index + (n + 1) := fun n => by omega
      rw [firstFault?, Option.or_eq_some_iff, ih]
      -- the index is that of the rule in front, or one more than an index behind it
      conv_rhs => rw [← Nat.or_exists_add_one]
      simp only [hindex, List.getElem?_cons_zero, List.getElem?_cons_succ, Nat.add_zero,
        Nat.forall_lt_succ_left, Nat.not_lt_zero, false_imp_iff, implies_true, and_true,
        Option.some.injEq, exists_eq_left', forall_eq']
      refine or_congr_right ⟨?_, ?_⟩
      · rintro ⟨hr, i, s, hs, he, hbefore⟩
        exact ⟨i, s, hs, he, hr, hbefore⟩
      · rintro ⟨i, s, hs, he, hr, hbefore⟩
        exact ⟨hr, i, s, hs, he, hbefore⟩

lemma firstFault?_ne_none_iff : firstFault? o index rs ≠ none ↔ ∃ r ∈ rs, r.IsFaulty o := by
  induction rs generalizing index with
  | nil => simp [firstFault?]
  | cons r rs ih =>
      rw [firstFault?, Ne, Option.or_eq_none_iff, not_and_or, ← Ne, ← Ne, ih,
        Rule.fault?_ne_none_iff]
      simp only [List.mem_cons, exists_eq_or_imp]

end

/-! ## Jobs that do not compile -/

/-- What is wrong with a job. -/
def Job.fault? (o : Options) (j : Job) : Option Error :=
  match j.rule.unknownFlag? with
  | some letter => some (.unknownFlag j.index letter)
  | none => (j.rule.rejection? o j.variant).map (.invalidPattern j.index j.applied.pattern)

/-- A job fails to compile for what is wrong with it. -/
lemma ofRule_eq_error_iff {o : Options} {j : Job} {e : Error} :
    CompiledRule.ofRule j.index j.rule j.variant o.wholeWords = .error e ↔ j.fault? o = some e := by
  unfold Job.fault? Rule.unknownFlag? Rule.rejection? CompiledRule.ofRule
  rw [PatternFlags.ofLetters_eq]
  cases j.rule.patternFlags.toList.find? (· ∉ flagLetters) with
  | some letter => simp
  | none =>
      dsimp only
      cases Regex.compile (effectivePattern (.asked j.rule.patternFlags) o.wholeWords
          (j.rule.variant j.variant).pattern) with
      | error reason => simp [Job.applied]
      | ok regex => simp

/-- What is wrong with a rule is what is wrong with the first of its jobs. -/
lemma findSome?_ruleJobs (o : Options) (index : ℕ) (r : Rule) :
    (ruleJobs o.preserveCase index r).findSome? (·.fault? o) = r.fault? o index := by
  rw [ruleJobs_eq_map, List.findSome?_map, Rule.fault?]
  cases h : r.unknownFlag? with
  | some letter => simp [variantsUnder, Job.fault?, h]
  | none => simp [Function.comp_def, Job.fault?, Job.applied, h]

lemma findSome?_jobs (o : Options) (index : ℕ) (rs : List Rule) :
    (jobs o.preserveCase index rs).findSome? (·.fault? o) = firstFault? o index rs := by
  induction rs generalizing index with
  | nil => rfl
  | cons r rs ih => rw [jobs, List.findSome?_append, findSome?_ruleJobs, ih, firstFault?]

/-- **A run fails for the first job that has something wrong with it**, whatever it has done
before. -/
theorem runJobs_eq_error_iff {o : Options} {js : List Job} {r : Run} {e : Error} :
    r.runJobs o js = .error e ↔ js.findSome? (·.fault? o) = some e := by
  induction js generalizing r with
  | nil => simp [Run.runJobs, pure, Except.pure]
  | cons j js ih =>
      rw [Run.runJobs_cons, Run.pass_eq_map, List.findSome?_cons]
      cases hc : CompiledRule.ofRule j.index j.rule j.variant o.wholeWords with
      | error f =>
          rw [ofRule_eq_error_iff.mp hc]
          simp [bind, Except.bind, Except.map]
      | ok c =>
          have hnone : j.fault? o = none := by
            refine Option.eq_none_iff_forall_ne_some.mpr fun f hf => ?_
            rw [← ofRule_eq_error_iff, hc] at hf
            cases hf
          rw [hnone]
          exact ih

/-! ## Runs that fail -/

lemma applyRules_eq_error_iff {rs : List Rule} {subject : String} {o : Options} {e : Error} :
    applyRules rs subject o = .error e ↔ firstFault? o 0 rs = some e := by
  rw [applyRules, Run.rules_eq_runJobs, runJobs_eq_error_iff, findSome?_jobs]

/-- **Whether and how a run fails is settled beforehand.**  The rules go through with every text, or
they fail with the same error for every text.  They fail exactly if some rule has a flag letter that
is not known or a pattern that is rejected, and they fail for the first such rule.  A run that goes
through has made every pass. -/
theorem applyRules_refusal (rs : List Rule) (o : Options) :
    ((∀ subject, ∃ run, applyRules rs subject o = .ok run) ∨
      ∃ e, ∀ subject, applyRules rs subject o = .error e) ∧
    ∀ subject,
      ((∃ e, applyRules rs subject o = .error e) ↔
        ∃ r ∈ rs, (∃ letter ∈ r.patternFlags.toList, letter ∉ flagLetters) ∨
          ∃ variant ∈ variantsUnder o.preserveCase, r.rejection? o variant ≠ none) ∧
      (∀ e, applyRules rs subject o = .error e ↔
        ∃ (i : ℕ) (r : Rule), rs[i]? = some r ∧ r.fault? o i = some e ∧
          ∀ j < i, ∀ s : Rule, rs[j]? = some s → s.fault? o j = none) ∧
      ∀ run, applyRules rs subject o = .ok run →
        run.passes.map (fun p => (p.ruleIndex, p.variant))
          = schedule o.preserveCase rs.length := by
  refine ⟨?_, fun subject => ⟨?_, fun e => ?_, fun run => places_of_applyRules⟩⟩
  · cases hfault : firstFault? o 0 rs with
    | some e => exact .inr ⟨e, fun subject => applyRules_eq_error_iff.mpr hfault⟩
    | none =>
        refine .inl fun subject => ?_
        cases hrun : applyRules rs subject o with
        | ok run => exact ⟨run, rfl⟩
        | error e =>
            rw [applyRules_eq_error_iff, hfault] at hrun
            cases hrun
  · simp only [applyRules_eq_error_iff]
    rw [← Option.ne_none_iff_exists', firstFault?_ne_none_iff]
    rfl
  · rw [applyRules_eq_error_iff, firstFault?_eq_some_iff]
    simp only [Nat.zero_add]

/-- A rule that goes through, and a rule with an unknown letter, the pattern of which is rejected,
too. -/
theorem applyRules_refusal_unknownFlag :
    let rules : List Rule := [{ pattern := "a", replacement := "b" },
      { pattern := "(", patternFlags := "gy", replacement := "" }]
    (∃ rule ∈ rules, rule.rejection? {} .asWritten ≠ none) ∧
      applyRules rules "a" {} = .error (.unknownFlag 1 'y') := by
  intro rules
  refine ⟨⟨rules[1], List.mem_of_getElem rfl, by decide +kernel⟩, ?_⟩
  refine ((applyRules_refusal rules {}).2 "a").2.1 _ |>.mpr
    ⟨1, rules[1], rfl, by decide +kernel, fun j hj s hs => ?_⟩
  obtain rfl := Nat.lt_one_iff.mp hj
  obtain rfl := Option.some.inj hs
  decide +kernel

end Scratchpad
