import Mathlib
import Scratchpad.Proofs.Replace.OneWalk
import Scratchpad.Replace.Run

/-!
# A run as a list of passes

A rule set asks for one or two passes a rule.  Laid out as one list of jobs, a run is a fold over
that list, and what holds of a run is proved along it.

* `jobs`, `Run.rules_eq_runJobs` — the passes a rule set asks for, and the run as a fold.
* `ofRule_eq_ok_iff` — when a rule compiles, and to what.
* `Run.pass_eq_map` — all that a pass does: it fails only if its rule cannot be compiled.
* `Run.runJobs_alike` — runs with passes that go alike.
* `Run.applyRules_withoutLog` — the log has no part in what a run does.
* `Hits` — a text's way through the passes that found something.
* `Run.hits_of_runJobs` — every run has such a way, which its log and its passes record.
-/

namespace Scratchpad

open Pattern (Regex)
open Replace (CompiledRule effectivePattern templateOf)

/-! ## Compiling a rule -/

/-- **A rule compiles** exactly if its flags are known and its pattern compiles with them.  Its
index has no part in it. -/
theorem ofRule_eq_ok_iff {index : ℕ} {rule : Rule} {variant : Variant} {wholeWords : Bool}
    {c : CompiledRule} :
    CompiledRule.ofRule index rule variant wholeWords = .ok c ↔
      ∃ flags regex, PatternFlags.ofLetters rule.patternFlags = .ok flags ∧
        Regex.compile (effectivePattern flags wholeWords (rule.variant variant).pattern)
          = .ok regex ∧
        c = ⟨regex, templateOf (rule.variant variant) regex, (rule.variant variant).describe⟩ := by
  unfold CompiledRule.ofRule
  cases PatternFlags.ofLetters rule.patternFlags with
  | error flag => simp
  | ok flags =>
      cases hregex :
          Regex.compile (effectivePattern flags wholeWords (rule.variant variant).pattern) with
      | error reason => simp [hregex]
      | ok regex => simp [hregex, eq_comm]

/-- A pattern that compiles has a meaning. -/
lemma Pattern.exists_meaning_of_compile {pattern : String} {r : Regex}
    (h : Regex.compile pattern = .ok r) :
    ∃ e, Regex.meaning pattern.toList = .ok e ∧ r = .ofExpr e := by
  rw [Regex.compile] at h
  cases hmeaning : Regex.meaning pattern.toList with
  | error failure =>
      rw [hmeaning] at h
      cases h
  | ok e =>
      rw [hmeaning] at h
      dsimp only at h
      split_ifs at h
      cases h
      exact ⟨e, rfl, rfl⟩

/-- What a compiled rule searches for is an expression. -/
lemma exists_expr_of_ofRule {index : ℕ} {rule : Rule} {variant : Variant} {wholeWords : Bool}
    {c : CompiledRule} (h : CompiledRule.ofRule index rule variant wholeWords = .ok c) :
    ∃ e, c.regex = .ofExpr e := by
  obtain ⟨flags, regex, -, hregex, rfl⟩ := ofRule_eq_ok_iff.mp h
  obtain ⟨e, -, rfl⟩ := Pattern.exists_meaning_of_compile hregex
  exact ⟨e, rfl⟩

/-- A compiled rule is shown as the variant that was compiled. -/
lemma description_of_ofRule {index : ℕ} {rule : Rule} {variant : Variant} {wholeWords : Bool}
    {c : CompiledRule} (h : CompiledRule.ofRule index rule variant wholeWords = .ok c) :
    c.description = (rule.variant variant).describe := by
  obtain ⟨flags, regex, -, -, rfl⟩ := ofRule_eq_ok_iff.mp h
  rfl

/-- A variant is compiled like a rule that is written that way. -/
lemma ofRule_asWritten (index : ℕ) (rule : Rule) (variant : Variant) (wholeWords : Bool) :
    CompiledRule.ofRule index (rule.variant variant) .asWritten wholeWords
      = CompiledRule.ofRule index rule variant wholeWords := by
  cases variant <;> rfl

/-- The same holds under any other index, if the variant compiles. -/
lemma ofRule_variant {index : ℕ} {rule : Rule} {variant : Variant} {wholeWords : Bool}
    {c : CompiledRule} (h : CompiledRule.ofRule index rule variant wholeWords = .ok c) (k : ℕ) :
    CompiledRule.ofRule k (rule.variant variant) .asWritten wholeWords = .ok c := by
  rw [ofRule_asWritten]
  exact ofRule_eq_ok_iff.mpr (ofRule_eq_ok_iff.mp h)

/-- The same failure of a rule with another index. -/
def Error.renumbered (f : ℕ → ℕ) : Error → Error
  | .invalidPattern index pattern reason => .invalidPattern (f index) pattern reason
  | .unknownFlag index flag => .unknownFlag (f index) flag
  | .emptyDelimiter => .emptyDelimiter
  | .invalidSentencePattern reason => .invalidSentencePattern reason

/-- A rule compiles in the same way under any index, or fails in the same way. -/
lemma ofRule_renumbered (f : ℕ → ℕ) (index : ℕ) (rule : Rule) (variant : Variant)
    (wholeWords : Bool) :
    CompiledRule.ofRule (f index) rule variant wholeWords
      = (CompiledRule.ofRule index rule variant wholeWords).mapError (·.renumbered f) := by
  unfold CompiledRule.ofRule
  cases PatternFlags.ofLetters rule.patternFlags with
  | error flag => rfl
  | ok flags =>
      dsimp only
      split <;> rfl

/-- What is found of a rule once it has been compiled is found of its compiled form. -/
lemma exists_of_map_ofRule {β : Type} {index : ℕ} {rule : Rule} {variant : Variant}
    {wholeWords : Bool} {f : CompiledRule → β} {b : β}
    (h : (CompiledRule.ofRule index rule variant wholeWords).map f = .ok b) :
    ∃ c, CompiledRule.ofRule index rule variant wholeWords = .ok c ∧ f c = b := by
  cases hc : CompiledRule.ofRule index rule variant wholeWords with
  | error failure =>
      rw [hc] at h
      cases h
  | ok c =>
      rw [hc] at h
      exact ⟨c, rfl, Except.ok.inj h⟩

/-! ## Jobs -/

/-- One variant of a rule that stands at a place of a rule set. -/
structure Job where
  index : ℕ
  rule : Rule
  variant : Variant
  deriving DecidableEq, Repr

/-- The rule as the job applies it. -/
def Job.applied (j : Job) : Rule := j.rule.variant j.variant

/-- The passes that a rule asks for. -/
def ruleJobs (preserveCase : Bool) (index : ℕ) (rule : Rule) : List Job :=
  ⟨index, rule, .asWritten⟩ :: if preserveCase then [⟨index, rule, .capitalized⟩] else []

/-- The passes that a rule set asks for, the first rule of which has the given index. -/
def jobs (preserveCase : Bool) : (index : ℕ) → List Rule → List Job
  | _, [] => []
  | index, r :: rs => ruleJobs preserveCase index r ++ jobs preserveCase (index + 1) rs

/-- Every job applies the rule at its index. -/
lemma getElem?_of_mem_jobs {preserveCase : Bool} {index : ℕ} {rs : List Rule} {j : Job}
    (h : j ∈ jobs preserveCase index rs) :
    index ≤ j.index ∧ rs[j.index - index]? = some j.rule := by
  induction rs generalizing index with
  | nil => simp [jobs] at h
  | cons r rs ih =>
      rcases List.mem_append.mp h with h | h
      · have : j.index = index ∧ j.rule = r := by
          cases preserveCase
          · simp only [ruleJobs, Bool.false_eq_true, if_false, List.mem_singleton] at h
            simp [h]
          · simp only [ruleJobs, if_true, List.mem_cons, List.not_mem_nil, or_false] at h
            rcases h with rfl | rfl <;> simp
        simp [this.1, this.2]
      · obtain ⟨hle, hget⟩ := ih h
        refine ⟨by omega, ?_⟩
        rw [show j.index - index = (j.index - (index + 1)) + 1 by omega, List.getElem?_cons_succ]
        exact hget

namespace Run

variable (o : Options)

/-- Run jobs one after the other. -/
def runJobs (js : List Job) (r : Run) : Except Error Run :=
  js.foldlM (fun r j => r.pass o j.index j.rule j.variant) r

lemma runJobs_cons (j : Job) (js : List Job) (r : Run) :
    r.runJobs o (j :: js) = r.pass o j.index j.rule j.variant >>= fun r => r.runJobs o js :=
  List.foldlM_cons ..

lemma runJobs_append (js js' : List Job) (r : Run) :
    r.runJobs o (js ++ js') = r.runJobs o js >>= fun r => r.runJobs o js' :=
  List.foldlM_append ..

/-- **A run is a fold over its jobs.** -/
theorem rules_eq_runJobs (index : ℕ) (rs : List Rule) (r : Run) :
    r.rules o index rs = r.runJobs o (jobs o.preserveCase index rs) := by
  induction rs generalizing index r with
  | nil => rfl
  | cons rule rs ih =>
      have hrule : r.rule o index rule = r.runJobs o (ruleJobs o.preserveCase index rule) := by
        unfold Run.rule ruleJobs
        cases o.preserveCase
        · simp [runJobs]
        · simp [runJobs]
      rw [rules, jobs, runJobs_append, hrule]
      simp only [ih]

/-! ## One pass -/

/-- What a pass with a compiled rule leaves. -/
def after (index : ℕ) (variant : Variant) (c : CompiledRule) (r : Run) : Run :=
  let found := c.replaceIn r.text
  { text := if found.1 = 0 then r.text else found.2
    log := if found.1 ≠ 0 ∧ o.log then r.log ++ [⟨index, found.1, c.description⟩] else r.log
    passes := r.passes ++ [⟨index, variant, found.1⟩] }

/-- **All that a pass does.**  It compiles its rule, and after that nothing can go wrong. -/
theorem pass_eq_map (index : ℕ) (rule : Rule) (variant : Variant) (r : Run) :
    r.pass o index rule variant
      = (CompiledRule.ofRule index rule variant o.wholeWords).map (r.after o index variant) := by
  unfold pass after
  cases CompiledRule.ofRule index rule variant o.wholeWords with
  | error e => rfl
  | ok c =>
      simp only [bind, Except.bind, pure, Except.pure, Except.map, c.replaceIn_eq]
      by_cases hn : c.count r.text = 0 <;> cases o.log <;> simp [hn]

/-- A pass goes through exactly if its rule can be compiled. -/
lemma pass_eq_ok_iff {index : ℕ} {rule : Rule} {variant : Variant} {r r' : Run} :
    r.pass o index rule variant = .ok r' ↔
      ∃ c, CompiledRule.ofRule index rule variant o.wholeWords = .ok c ∧
        r' = r.after o index variant c := by
  rw [pass_eq_map]
  cases CompiledRule.ofRule index rule variant o.wholeWords with
  | error e => simp [Except.map]
  | ok c => simp [Except.map, eq_comm]

/-- A pass leaves what its rule makes of the text, whether or not it has found something. -/
lemma text_after (index : ℕ) (variant : Variant) (c : CompiledRule) (r : Run) :
    (r.after o index variant c).text = (c.replaceIn r.text).2 := by
  by_cases hn : (c.replaceIn r.text).1 = 0
  · simp [after, hn, Replace.replaceIn_eq_of_count_eq_zero hn]
  · simp [after, hn]

/-- Jobs go through if the first one compiles and the others go through behind it. -/
lemma runJobs_cons_eq_ok_iff {j : Job} {js : List Job} {r r' : Run} :
    r.runJobs o (j :: js) = .ok r' ↔
      ∃ c, CompiledRule.ofRule j.index j.rule j.variant o.wholeWords = .ok c ∧
        (r.after o j.index j.variant c).runJobs o js = .ok r' := by
  rw [runJobs_cons, pass_eq_map]
  cases CompiledRule.ofRule j.index j.rule j.variant o.wholeWords with
  | error e => simp [bind, Except.bind, Except.map]
  | ok c => simp [bind, Except.bind, Except.map]

/-! ## Runs that go alike -/

lemma mapError_id {ε α : Type} (x : Except ε α) : x.mapError id = x := by
  cases x <;> rfl

/-- **If each pass of one run goes as a pass of another one**, up to a translation of runs and of
failures, then so does the whole run. -/
theorem runJobs_alike {o o' : Options} {f : Run → Run} {g : Error → Error} {js js' : List Job}
    (h : List.Forall₂ (fun j j' => ∀ r : Run, (f r).pass o' j'.index j'.rule j'.variant
      = ((r.pass o j.index j.rule j.variant).map f).mapError g) js js') (r : Run) :
    (f r).runJobs o' js' = ((r.runJobs o js).map f).mapError g := by
  induction h generalizing r with
  | nil => rfl
  | @cons j j' js js' hpass _ ih =>
      rw [runJobs_cons, runJobs_cons, hpass]
      cases r.pass o j.index j.rule j.variant with
      | error e => rfl
      | ok next => exact ih next

/-- A pass goes as another one if its rule compiles in the same way, and if it leaves the same. -/
lemma pass_alike {o o' : Options} {f : Run → Run} {g : Error → Error} {index index' : ℕ}
    {rule rule' : Rule} {variant variant' : Variant} {r : Run}
    (hcompile : CompiledRule.ofRule index' rule' variant' o'.wholeWords
      = (CompiledRule.ofRule index rule variant o.wholeWords).mapError g)
    (hafter : ∀ c, (f r).after o' index' variant' c = f (r.after o index variant c)) :
    (f r).pass o' index' rule' variant' = ((r.pass o index rule variant).map f).mapError g := by
  rw [pass_eq_map, pass_eq_map, hcompile]
  cases CompiledRule.ofRule index rule variant o.wholeWords with
  | error e => rfl
  | ok c => exact congrArg Except.ok (hafter c)

/-! ## Without the log -/

/-- A run without what it has logged. -/
def withoutLog (r : Run) : Run := { r with log := [] }

/-- A pass leaves the same whether or not it is logged. -/
lemma after_withoutLog (index : ℕ) (variant : Variant) (c : CompiledRule) (r : Run) :
    r.withoutLog.after { o with log := false } index variant c
      = (r.after o index variant c).withoutLog := by
  have htext : r.withoutLog.text = r.text := rfl
  simp only [after, htext]
  simp [withoutLog]

lemma runJobs_withoutLog (js : List Job) (r : Run) :
    r.withoutLog.runJobs { o with log := false } js = (r.runJobs o js).map withoutLog := by
  have h : r.withoutLog.runJobs { o with log := false } js
      = ((r.runJobs o js).map withoutLog).mapError id := by
    refine runJobs_alike (List.forall₂_same.mpr fun j _ r => ?_) r
    exact pass_alike (mapError_id _).symm fun c => after_withoutLog o j.index j.variant c r
  rw [h, mapError_id]

/-- **A run does the same whether or not it is logged**: the same text with the same passes, or the
same failure. -/
theorem applyRules_withoutLog (rs : List Rule) (subject : String) :
    applyRules rs subject { o with log := false } = (applyRules rs subject o).map withoutLog := by
  unfold applyRules
  rw [rules_eq_runJobs, rules_eq_runJobs]
  exact runJobs_withoutLog o (jobs o.preserveCase 0 rs) { text := subject }

lemma map_withoutLog_applyRules (log : Bool) (rs : List Rule) (subject : String) :
    (applyRules rs subject { o with log := log }).map withoutLog
      = (applyRules rs subject o).map withoutLog := by
  rw [← applyRules_withoutLog, ← applyRules_withoutLog]

/-- Only the log depends on what is logged. -/
lemma map_applyRules {β : Type} {f : Run → β} (hf : ∀ r : Run, f r.withoutLog = f r) (log : Bool)
    (rs : List Rule) (subject : String) :
    (applyRules rs subject { o with log := log }).map f = (applyRules rs subject o).map f := by
  have hmap : ∀ x : Except Error Run, (x.map withoutLog).map f = x.map f := fun x => by
    cases x with
    | error e => rfl
    | ok r => exact congrArg Except.ok (hf r)
  rw [← hmap, map_withoutLog_applyRules, hmap]

/-- The text does not depend on what is logged. -/
lemma map_text_applyRules (log : Bool) (rs : List Rule) (subject : String) :
    (applyRules rs subject { o with log := log }).map (·.text)
      = (applyRules rs subject o).map (·.text) :=
  map_applyRules o (fun _ => rfl) log rs subject

end Run

/-! ## The passes that found something -/

/-- A way of a text through jobs that all find something, each with the number of its matches. -/
inductive Hits (wholeWords : Bool) : String → List (Job × ℕ) → String → Prop
  | nil (t : String) : Hits wholeWords t [] t
  | cons {t u : String} {j : Job} {c : CompiledRule} {hs : List (Job × ℕ)}
      (hc : CompiledRule.ofRule j.index j.rule j.variant wholeWords = .ok c)
      (hn : (c.replaceIn t).1 ≠ 0) (hrest : Hits wholeWords (c.replaceIn t).2 hs u) :
      Hits wholeWords t ((j, (c.replaceIn t).1) :: hs) u

/-- The log entry of a pass that found something. -/
def hitEntry (h : Job × ℕ) : LogEntry := ⟨h.1.index, h.2, h.1.applied.describe⟩

/-- What is recorded of such a pass. -/
def hitPass (h : Job × ℕ) : Pass := ⟨h.1.index, h.1.variant, h.2⟩

/-- **Every run is a way of its text through hits**, which are some of its jobs in their order, and
which the log and the productive passes record. -/
theorem Run.hits_of_runJobs (o : Options) {js : List Job} {r r' : Run}
    (h : r.runJobs o js = .ok r') :
    ∃ hs, Hits o.wholeWords r.text hs r'.text ∧ (hs.map Prod.fst).Sublist js ∧
      r'.productive = r.productive ++ hs.map hitPass ∧
      r'.log = r.log ++ if o.log then hs.map hitEntry else [] := by
  induction js generalizing r with
  | nil =>
      cases h
      exact ⟨[], .nil _, by simp, by simp, by simp⟩
  | cons j js ih =>
      obtain ⟨c, hc, hrest⟩ := (runJobs_cons_eq_ok_iff o).mp h
      obtain ⟨hs, hhits, hsub, hprod, hlog⟩ := ih hrest
      by_cases hn : (c.replaceIn r.text).1 = 0
      · -- nothing was found: neither the text nor its record has changed
        refine ⟨hs, ?_, hsub.cons j, ?_, ?_⟩
        · simpa [after, hn] using hhits
        · simpa [after, hn, productive, Pass.isProductive] using hprod
        · simpa [after, hn] using hlog
      · refine ⟨(j, (c.replaceIn r.text).1) :: hs, ?_, hsub.cons_cons j, ?_, ?_⟩
        · exact .cons hc hn (by simpa [after, hn] using hhits)
        · rw [hprod]
          simp [after, productive, Pass.isProductive, Nat.pos_of_ne_zero hn, hitPass]
        · rw [hlog]
          by_cases ho : o.log = true
          · simp [after, hn, ho, hitEntry, description_of_ofRule hc, Job.applied]
          · simp [after, ho]

end Scratchpad
