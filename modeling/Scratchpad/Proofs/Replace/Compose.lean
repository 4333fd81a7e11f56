import Scratchpad.Proofs.Replace.Passes

/-!
# Rule sets compose

To run two rule sets one after the other is to run them as one.  All that a run knows of its past is
the text so far; what it records is put behind the records of the first rule set, and only the
numbers of the rules tell that others came before.

* `Error.moved`, `LogEntry.moved`, `Pass.moved`, `Job.moved` — the same of a rule that stands
  further on.
* `Run.followedBy` — one run, and another one from the text that it has left.
* `Run.after_followedBy`, `Run.runJobs_followedBy` — a pass, and hence a run, goes on behind another
  run as it goes by itself.
* **`applyRules_append`** — two rule sets as one.
-/

namespace Scratchpad

open Replace (CompiledRule)

/-- The same failure of a rule that stands `n` places further on. -/
def Error.moved (n : ℕ) : Error → Error
  | .invalidPattern index pattern reason => .invalidPattern (index + n) pattern reason
  | .unknownFlag index flag => .unknownFlag (index + n) flag
  | .emptyDelimiter => .emptyDelimiter
  | .invalidSentencePattern reason => .invalidSentencePattern reason

/-- The same entry for a rule that stands `n` places further on. -/
def LogEntry.moved (n : ℕ) (e : LogEntry) : LogEntry := { e with ruleIndex := e.ruleIndex + n }

/-- The same pass of a rule that stands `n` places further on. -/
def Pass.moved (n : ℕ) (p : Pass) : Pass := { p with ruleIndex := p.ruleIndex + n }

/-- The same job for a rule that stands `n` places further on. -/
def Job.moved (n : ℕ) (j : Job) : Job := { j with index := j.index + n }

/-- A run of `n` rules, and behind it another one from the text that it has left. -/
def Run.followedBy (n : ℕ) (a b : Run) : Run where
  text := b.text
  log := a.log ++ b.log.map (·.moved n)
  passes := a.passes ++ b.passes.map (·.moved n)

/-! ## The jobs of two rule sets -/

lemma ruleJobs_add (preserveCase : Bool) (index n : ℕ) (rule : Rule) :
    ruleJobs preserveCase (index + n) rule
      = (ruleJobs preserveCase index rule).map (·.moved n) := by
  cases preserveCase <;> rfl

lemma jobs_add (preserveCase : Bool) (index n : ℕ) (rs : List Rule) :
    jobs preserveCase (index + n) rs = (jobs preserveCase index rs).map (·.moved n) := by
  induction rs generalizing index with
  | nil => rfl
  | cons r rs ih =>
      rw [jobs, jobs, List.map_append, ruleJobs_add, ← ih, Nat.add_right_comm]

/-- The jobs of the first rule set come before those of the second. -/
lemma jobs_append (preserveCase : Bool) (index : ℕ) (A B : List Rule) :
    jobs preserveCase index (A ++ B)
      = jobs preserveCase index A ++ jobs preserveCase (index + A.length) B := by
  induction A generalizing index with
  | nil => rfl
  | cons r A ih =>
      rw [List.cons_append, jobs, jobs, ih, List.append_assoc, List.length_cons, Nat.add_assoc,
        Nat.add_comm 1]

/-! ## Going on behind another run -/

/-- A rule that stands further on compiles in the same way, and fails in the same way. -/
lemma ofRule_add (index n : ℕ) (rule : Rule) (variant : Variant) (wholeWords : Bool) :
    CompiledRule.ofRule (index + n) rule variant wholeWords
      = (CompiledRule.ofRule index rule variant wholeWords).mapError (·.moved n) := by
  have hmoved : Error.renumbered (· + n) = Error.moved n := by
    funext e
    cases e <;> rfl
  rw [← hmoved]
  exact ofRule_renumbered (· + n) index rule variant wholeWords

namespace Run

variable (o : Options) (n : ℕ) (a : Run)

/-- Behind a run that has just ended nothing has happened yet. -/
lemma followedBy_start : a.followedBy n { text := a.text } = a := by
  simp [followedBy]

/-- What a pass leaves behind another run is what it leaves by itself, behind that run. -/
lemma after_followedBy (index : ℕ) (variant : Variant) (c : CompiledRule) (b : Run) :
    (a.followedBy n b).after o (index + n) variant c
      = a.followedBy n (b.after o index variant c) := by
  have htext : (a.followedBy n b).text = b.text := rfl
  simp only [after, htext]
  by_cases hlogged : (c.replaceIn b.text).1 ≠ 0 ∧ o.log <;>
    simp [hlogged, followedBy, Pass.moved, LogEntry.moved]

/-- **A run goes on behind another run** as it goes by itself. -/
theorem runJobs_followedBy (js : List Job) (b : Run) :
    (a.followedBy n b).runJobs o (js.map (·.moved n))
      = ((b.runJobs o js).map (a.followedBy n)).mapError (·.moved n) := by
  refine runJobs_alike (List.forall₂_map_right_iff.mpr (List.forall₂_same.mpr fun j _ b => ?_)) b
  exact pass_alike (ofRule_add j.index n j.rule j.variant o.wholeWords)
    fun c => a.after_followedBy o n j.index j.variant c b

end Run

/-- **Rule sets compose.**  To run two rule sets as one is to run the first one and then, on the
text that it has left, the second one.  The text is what the second one leaves, and the log and the
passes are those of the first with those of the second behind them; it fails as the first one does,
or else as the second one does.  The rules of the second one are numbered on from the first. -/
theorem applyRules_append (A B : List Rule) (subject : String) (o : Options) :
    applyRules (A ++ B) subject o =
      match applyRules A subject o with
      | .error e => .error e
      | .ok a =>
        match applyRules B a.text o with
        | .error e => .error (e.moved A.length)
        | .ok b => .ok {
            text := b.text
            log := a.log ++ b.log.map (·.moved A.length)
            passes := a.passes ++ b.passes.map (·.moved A.length) } := by
  unfold applyRules
  rw [Run.rules_eq_runJobs, Run.rules_eq_runJobs, jobs_append, Run.runJobs_append]
  cases Run.runJobs o (jobs o.preserveCase 0 A) { text := subject } with
  | error e => rfl
  | ok a =>
      have hrest := a.runJobs_followedBy o A.length (jobs o.preserveCase 0 B) { text := a.text }
      rw [a.followedBy_start, ← jobs_add] at hrest
      simp only [bind, Except.bind, hrest, Run.rules_eq_runJobs]
      cases Run.runJobs o (jobs o.preserveCase 0 B) { text := a.text } <;> rfl

end Scratchpad
