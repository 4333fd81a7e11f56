import Scratchpad.Proofs.CommandLine.Output
import Scratchpad.Proofs.German

/-!
# How commands fail

What can fail in a command are some steps, which it takes one after the other.  It fails as the
first step that fails; the steps behind that one are not taken, so that nothing is read for them.

* `Step`, `Invocation.steps` — what can fail, in the order of the command.
* `Step.failure?`, `firstFailure?` — why a step fails, and the first step that does.
* `Step.isSome_failure?_iff` — a reading step fails where a source is missing or no text.
* `Takes` — a program that takes steps.
* `Takes.bind` — a step, and what is done if it does not fail.
* `Invocation.takes` — every command takes its steps.
* `recorded` — a run with a record of what it has read.
* **`outcome_of_firstFailure`** — what a run says of its first failure.
-/

namespace Scratchpad.CommandLine

/-! ## Steps -/

/-- What can fail. -/
inductive Step where
  | ruleFile (path : String)
  | input (given : Option String)
  | rules (c : ReplaceCommand) (given : Option String)
  | pattern (pattern : Option String)
  | delimiter (argument : String)
  deriving DecidableEq, Repr

/-- The steps of a command, in the order in which they are taken. -/
def Invocation.steps (i : Invocation) : List Step :=
  match i.command with
  | .replace c => [.ruleFile c.rules, .input i.input, .rules c i.input]
  | .german => [.input i.input]
  | .capitalize pattern => [.pattern pattern, .input i.input]
  | .note c => [.input i.input, .delimiter c.delimiter]

/-- Why something failed, if it did. -/
def reason? {ε α : Type} : Except ε α → Option ε
  | .ok _ => none
  | .error e => some e

lemma reason?_eq_some_iff {ε α : Type} {x : Except ε α} {e : ε} :
    reason? x = some e ↔ x = .error e := by
  cases x <;> simp [reason?]

lemma reason?_eq_none_iff {ε α : Type} {x : Except ε α} : reason? x = none ↔ ∃ a, x = .ok a := by
  cases x <;> simp [reason?]

lemma reason?_mapError {ε δ α : Type} (f : ε → δ) (x : Except ε α) :
    reason? (x.mapError f) = (reason? x).map f := by
  cases x <;> rfl

lemma reason?_map {ε α β : Type} (f : α → β) (x : Except ε α) : reason? (x.map f) = reason? x := by
  cases x <;> rfl

/-- Whether and how rules fail does not depend on what is logged. -/
lemma reason?_applyRules (o : Options) (log : Bool) (rs : List Rule) (subject : String) :
    reason? (applyRules rs subject { o with log := log }) = reason? (applyRules rs subject o) := by
  rw [← reason?_map Run.withoutLog, Run.map_withoutLog_applyRules, reason?_map]

/-- Only the empty text is no delimiter. -/
lemma reason?_ofString (s : String) :
    reason? (Note.Delimiter.ofString s) = if s = "" then some .emptyDelimiter else none := by
  unfold Note.Delimiter.ofString
  by_cases h : s = "" <;> simp [h, reason?]

section

variable (read : Source → Except ReadError String)

namespace Step

/-- What is read in a step. -/
def source? : Step → Option Source
  | ruleFile path => some (.file path)
  | input given => inputSource? given
  | rules _ _ | pattern _ | delimiter _ => none

/-- Whether a step is to get at a text. -/
def isReading : Step → Bool
  | ruleFile _ | input _ => true
  | rules _ _ | pattern _ | delimiter _ => false

/-- Why a step fails, if it does. -/
def failure? : Step → Option CommandError
  | ruleFile path => (reason? (read (.file path))).map (.unreadable (.file path))
  | input given => (reason? (inputText read given)).map (.unreadable .standardInput)
  | rules c given => do
    let ruleText ← (read (.file c.rules)).toOption
    let text ← (inputText read given).toOption
    (reason? (applyRuleFile ruleText text ⟨c.wholeWords, c.preserveCase, false⟩)).map .failed
  | pattern none => none
  | pattern (some p) => (reason? (Capitalizer.ofPattern p)).map .failed
  | delimiter argument => if argument = "" then some (.failed .emptyDelimiter) else none

end Step

/-- The first step that fails, and why. -/
def firstFailure? (steps : List Step) : Option (Step × CommandError) :=
  steps.findSome? fun step => (step.failure? read).map (step, ·)

/-- The steps up to the first one that fails. -/
def taken : List Step → List Step
  | [] => []
  | step :: steps => step :: if (step.failure? read).isSome then [] else taken steps

variable {read} {step : Step} {e : CommandError} (steps : List Step)

lemma firstFailure?_of_some (h : step.failure? read = some e) :
    firstFailure? read (step :: steps) = some (step, e) := by
  simp [firstFailure?, h]

lemma firstFailure?_of_none (h : step.failure? read = none) :
    firstFailure? read (step :: steps) = firstFailure? read steps := by
  simp [firstFailure?, h]

lemma failure?_of_firstFailure? {steps : List Step}
    (h : firstFailure? read steps = some (step, e)) :
    step ∈ steps ∧ step.failure? read = some e := by
  obtain ⟨first, hmem, hfirst⟩ := List.exists_of_findSome?_eq_some h
  obtain ⟨reason, hreason, heq⟩ := Option.map_eq_some_iff.mp hfirst
  cases heq
  exact ⟨hmem, hreason⟩

lemma mem_of_mem_taken {steps : List Step} (h : step ∈ taken read steps) : step ∈ steps := by
  induction steps with
  | nil => cases h
  | cons first steps ih =>
      rw [taken] at h
      rcases List.mem_cons.mp h with rfl | h
      · exact List.mem_cons_self
      · split at h
        · cases h
        · exact List.mem_cons_of_mem _ (ih h)

lemma taken_of_some (h : step.failure? read = some e) : taken read (step :: steps) = [step] := by
  simp [taken, h]

lemma taken_of_none (h : step.failure? read = none) :
    taken read (step :: steps) = step :: taken read steps := by
  simp [taken, h]

end

/-- **In a world, a reading step fails** exactly if its source is missing or is not valid UTF-8. -/
theorem Step.isSome_failure?_iff {w : World} {step : Step} (h : step.isReading = true) :
    (step.failure? w.read).isSome ↔
      ∃ source, step.source? = some source ∧ (w.bytes? source).bind String.fromUTF8? = none := by
  have hsource : ∀ source, (reason? (w.read source)).isSome ↔
      (w.bytes? source).bind String.fromUTF8? = none := by
    intro source
    rw [Option.eq_none_iff_forall_ne_some]
    simp only [ne_eq, ← World.read_eq_ok_iff]
    cases w.read source <;> simp [reason?]
  cases step with
  | ruleFile path => simp [failure?, source?, hsource]
  | input given =>
      cases given with
      | none => simp [failure?, source?, inputSource?, inputText, hsource]
      | some text => simp [failure?, source?, inputSource?, inputText, reason?]
  | rules c given => cases h
  | pattern p => cases h
  | delimiter argument => cases h

/-! ## The commands -/

/-- A computation that reads, in whatever monad. -/
abbrev Program (α : Type) : Type 1 :=
  ∀ (m : Type → Type) [Monad m], (Source → m (Except ReadError String)) → ExceptT CommandError m α

section

variable (read : Source → Except ReadError String)

/-- A program that takes steps up to the first one that fails, and fails as this one does.  It is
the same whatever is noted of what it reads. -/
structure Takes {α : Type} (x : Program α) (steps : List Step) (result : Except CommandError α) :
    Prop where
  reason : reason? result = (firstFailure? read steps).map Prod.snd
  does : ∀ (m : Type → Type) [Monad m] [LawfulMonad m] (note : Source → m Unit),
    Does note (x m (noting note read)) ((taken read steps).filterMap Step.source?) result

variable {read} {α β : Type} {step : Step} {steps : List Step}

lemma Takes.pure (a : α) : Takes read (fun _ _ _ => Pure.pure a) [] (.ok a) :=
  ⟨rfl, fun _ _ _ _ => Does.pure a⟩

/-- A program of one step. -/
lemma Takes.of_does {x : Program α} {result : Except CommandError α}
    (hreason : reason? result = step.failure? read)
    (hdoes : ∀ (m : Type → Type) [Monad m] [LawfulMonad m] (note : Source → m Unit),
      Does note (x m (noting note read)) step.source?.toList result) :
    Takes read x [step] result := by
  have htaken : taken read [step] = [step] := by simp [taken]
  refine ⟨?_, fun m _ _ note => ?_⟩
  · rw [hreason]
    cases h : step.failure? read with
    | none => rw [firstFailure?_of_none _ h]; rfl
    | some e => rw [firstFailure?_of_some _ h]; rfl
  · rw [htaken]
    cases h : step.source? with
    | none => simpa [h] using hdoes m note
    | some source => simpa [h] using hdoes m note

/-- **A step, and what is done if it does not fail.** -/
lemma Takes.bind {x : Program α} {f : α → Program β} {result : Except CommandError α}
    (hx : Takes read x [step] result)
    (hf : ∀ a, result = .ok a → ∃ r, Takes read (f a) steps r) :
    ∃ r, Takes read (fun m _ read => x m read >>= fun a => f a m read) (step :: steps) r := by
  have hreason := hx.reason
  have hdoes := hx.does
  cases hstep : step.failure? read with
  | some e =>
      rw [firstFailure?_of_some _ hstep, Option.map_some, reason?_eq_some_iff] at hreason
      subst hreason
      rw [taken_of_some _ hstep] at hdoes
      refine ⟨.error e, ?_, fun m _ _ note => ?_⟩
      · rw [firstFailure?_of_some _ hstep]
        rfl
      · rw [taken_of_some _ hstep]
        exact (hdoes m note).bind_error
  | none =>
      rw [firstFailure?_of_none _ hstep] at hreason
      obtain ⟨a, rfl⟩ := reason?_eq_none_iff.mp hreason
      obtain ⟨r, hr⟩ := hf a rfl
      rw [taken_of_none _ hstep] at hdoes
      refine ⟨r, ?_, fun m _ _ note => ?_⟩
      · rw [firstFailure?_of_none _ hstep]
        exact hr.reason
      · have hboth : Does note (x m (noting note read) >>= fun a => f a m (noting note read)) _ r :=
          (hdoes m note).bind_ok (hr.does m note)
        rw [← List.filterMap_append] at hboth
        rw [taken_of_none _ hstep]
        exact hboth

/-- What takes no step does not fail. -/
lemma Takes.bind_ok {x : Program α} {f : α → Program β} {a : α} {r : Except CommandError β}
    (hx : Takes read x [] (.ok a)) (hf : Takes read (f a) steps r) :
    Takes read (fun m _ read => x m read >>= fun a => f a m read) steps r :=
  ⟨hf.reason, fun m _ _ note => (hx.does m note).bind_ok (hf.does m note)⟩

lemma Takes.ruleFile (path : String) :
    Takes read (fun _ _ read => readSource read (.file path)) [.ruleFile path]
      ((read (.file path)).mapError (.unreadable (.file path))) :=
  .of_does (reason?_mapError _ _) fun _ _ _ _ => Does.readSource (.file path)

lemma Takes.input (given : Option String) :
    Takes read (fun _ _ read => readInput read given) [.input given]
      ((inputText read given).mapError (.unreadable .standardInput)) :=
  .of_does (reason?_mapError _ _) fun _ _ _ _ => Does.readInput given

/-- What the library returns is a step in which nothing is read. -/
lemma Takes.lift {result : Except Error α}
    (hreason : (reason? result).map .failed = step.failure? read) (hsource : step.source? = none) :
    Takes read (fun _ _ _ => CommandLine.lift result) [step] (result.mapError .failed) := by
  refine .of_does ((reason?_mapError _ _).trans hreason) fun m _ _ note => ?_
  rw [hsource]
  exact Does.lift result

lemma ReplaceCommand.takes (c : ReplaceCommand) (given : Option String) (color : Bool) :
    ∃ r, Takes read (fun _ _ read => c.execute read given color)
      [.ruleFile c.rules, .input given, .rules c given] r := by
  unfold ReplaceCommand.execute
  refine Takes.bind (.ruleFile c.rules) fun ruleText hfile => ?_
  refine Takes.bind (.input given) fun text hinput => ?_
  have hrules : (reason? (applyRules (Rule.readAll ruleText) text
      ⟨c.wholeWords, c.preserveCase, c.log || c.report⟩)).map .failed
        = (Step.rules c given).failure? read := by
    rw [mapError_eq_ok_iff] at hfile hinput
    have hlog := reason?_applyRules ⟨c.wholeWords, c.preserveCase, c.log || c.report⟩ false
      (Rule.readAll ruleText) text
    rw [Step.failure?, hfile, hinput, ← hlog]
    rfl
  exact Takes.bind (.lift hrules rfl) fun run _ => ⟨_, .pure _⟩

lemma NoteCommand.takes (c : NoteCommand) (given : Option String) :
    ∃ r, Takes read (fun _ _ read => c.execute read given)
      [.input given, .delimiter c.delimiter] r := by
  unfold NoteCommand.execute
  refine Takes.bind (.input given) fun text _ => ?_
  have hdelimiter : (reason? (Note.Delimiter.ofString (delimiterText c.delimiter))).map .failed
      = (Step.delimiter c.delimiter).failure? read := by
    rw [reason?_ofString, Step.failure?]
    simp only [delimiterText_eq_empty_iff]
    split <;> rfl
  refine Takes.bind (.lift hdelimiter rfl) fun d _ => ?_
  cases c.action <;> exact ⟨_, .pure _⟩

/-- **Every command takes its steps.** -/
theorem Invocation.takes (i : Invocation) :
    ∃ r, Takes read (fun _ _ read => i.execute read) i.steps r := by
  obtain ⟨command, given, color⟩ := i
  cases command with
  | replace c => exact c.takes given color
  | german =>
      refine Takes.bind (.input given) fun text _ => ?_
      have hgerman : Takes read (fun _ _ _ => CommandLine.lift (fromYouToMe text)) []
          (.ok (translate text)) :=
        ⟨rfl, fun m _ _ note => by rw [fromYouToMe_ok]; exact Does.lift (.ok (translate text))⟩
      exact ⟨_, hgerman.bind_ok (.pure _)⟩
  | capitalize pattern =>
      cases pattern with
      | none =>
          refine Takes.bind (.lift rfl rfl) fun capitalizer _ => ?_
          exact Takes.bind (.input given) fun text _ => ⟨_, .pure _⟩
      | some p =>
          refine Takes.bind (.lift rfl rfl) fun capitalizer _ => ?_
          exact Takes.bind (.input given) fun text _ => ⟨_, .pure _⟩
  | note c => exact c.takes given

end

/-! ## What a run says of its first failure -/

/-- An error in words. -/
def CommandError.text : CommandError → String
  | unreadable source reason => "failed to read " ++ source.name ++ ": " ++ reason.message
  | failed reason => reason.message

lemma CommandError.message_eq (e : CommandError) : e.message = "error: " ++ e.text ++ "\n" := by
  cases e with
  | unreadable source reason =>
      have hsplit : "error: failed to read " = "error: " ++ "failed to read " := by
        decide +kernel
      rw [message.eq_def, text.eq_def]
      simp only [hsplit, String.append_assoc]
  | failed reason => rw [message.eq_def, text.eq_def]

/-- The exit code tells whether it was a text that could not be got at. -/
lemma Step.exitCode_of_failure? {read : Source → Except ReadError String} {step : Step}
    {e : CommandError} (h : step.failure? read = some e) :
    e.exitCode = if step.isReading then 2 else 1 := by
  cases step with
  | ruleFile path =>
      obtain ⟨reason, -, rfl⟩ := Option.map_eq_some_iff.mp h
      rfl
  | input given =>
      obtain ⟨reason, -, rfl⟩ := Option.map_eq_some_iff.mp h
      rfl
  | rules c given =>
      obtain ⟨ruleText, -, h⟩ := Option.bind_eq_some_iff.mp h
      obtain ⟨text, -, h⟩ := Option.bind_eq_some_iff.mp h
      obtain ⟨reason, -, rfl⟩ := Option.map_eq_some_iff.mp h
      rfl
  | pattern p =>
      cases p with
      | none => cases h
      | some p =>
          obtain ⟨reason, -, rfl⟩ := Option.map_eq_some_iff.mp h
          rfl
  | delimiter argument =>
      obtain ⟨-, h⟩ := Option.ite_none_right_eq_some.mp h
      cases h
      rfl

/-- To take down what is read. -/
def takeDown (source : Source) : StateM (List Source) Unit := modify (· ++ [source])

/-- A run with a record of what it has read. -/
def recorded (read : Source → Except ReadError String) (arguments : List String) :
    Outcome × List Source :=
  ((execute (noting takeDown read) arguments).run []).run

lemma run_forM_takeDown (sources past : List Source) :
    ((forM sources takeDown).run past).run = ((), past ++ sources) := by
  induction sources generalizing past with
  | nil => simp
  | cons source sources ih => simp [takeDown, ih]

/-- **A run takes its steps.**  It reads what the steps up to the first failure are to read, and it
fails as that one does. -/
theorem exists_result {arguments : List String} {i : Invocation}
    (h : Invocation.ofArguments arguments = .ok i) (read : Source → Except ReadError String) :
    ∃ result, reason? result = (firstFailure? read i.steps).map Prod.snd ∧
      outcome read arguments = .ofResult result ∧
      recorded read arguments
        = (.ofResult result, (taken read i.steps).filterMap Step.source?) := by
  obtain ⟨result, hresult⟩ : ∃ r, Takes read (fun _ _ read => i.execute read) i.steps r := i.takes
  have hpure : (i.execute (m := Id) read).run.run = result :=
    (hresult.does Id fun _ => pure ()).run_run
  have hrecord := hresult.does (StateM (List Source)) takeDown
  refine ⟨result, hresult.reason, ?_, ?_⟩
  · rw [outcome_of_ofArguments h, hpure]
  · rw [recorded, execute, h]
    dsimp only
    rw [hrecord]
    simp [run_forM_takeDown]

/-- Where the input is an argument, no step reads standard input. -/
lemma Invocation.source?_ne_standardInput {i : Invocation} (h : i.input.isSome) {step : Step}
    (hstep : step ∈ i.steps) : step.source? ≠ some .standardInput := by
  intro hsource
  have hnone : inputSource? i.input = none := if_pos h
  cases step with
  | ruleFile path => cases hsource
  | input given =>
      have hgiven : given = i.input := by
        cases hcommand : i.command <;> simpa [steps, hcommand] using hstep
      rw [Step.source?, hgiven, hnone] at hsource
      cases hsource
  | rules c given => cases hsource
  | pattern p => cases hsource
  | delimiter argument => cases hsource

/-- Nothing but the input can fail where no rules, pattern or delimiter are given. -/
lemma Invocation.isReading_of_german {i : Invocation} (h : i.command = .german) {step : Step}
    (hstep : step ∈ i.steps) : step.isReading = true := by
  rw [steps, h, List.mem_singleton] at hstep
  rw [hstep, Step.isReading]

section

variable {arguments : List String} {i : Invocation} {read : Source → Except ReadError String}
  (h : Invocation.ofArguments arguments = .ok i)

include h

/-- A run without a failure exits with code 0. -/
lemma code_of_firstFailure?_eq_none (hfirst : firstFailure? read i.steps = none) :
    (outcome read arguments).code = 0 := by
  obtain ⟨result, hreason, ho, -⟩ := exists_result h read
  rw [hfirst] at hreason
  obtain ⟨p, rfl⟩ := reason?_eq_none_iff.mp hreason
  rw [ho]
  rfl

/-- **A run with a failure** prints nothing but the message of the first one. -/
theorem outcome_of_firstFailure?_eq_some {step : Step} {e : CommandError}
    (hfirst : firstFailure? read i.steps = some (step, e)) :
    outcome read arguments
      = ⟨if step.isReading then 2 else 1, "", "error: " ++ e.text ++ "\n"⟩ := by
  obtain ⟨result, hreason, ho, -⟩ := exists_result h read
  rw [hfirst] at hreason
  obtain rfl := reason?_eq_some_iff.mp hreason
  rw [ho, Outcome.ofResult, e.message_eq,
    Step.exitCode_of_failure? (failure?_of_firstFailure? hfirst).2]

/-- Standard input is not read where the input is an argument. -/
lemma standardInput_notMem_recorded (hgiven : i.input.isSome) :
    Source.standardInput ∉ (recorded read arguments).2 := by
  obtain ⟨result, -, -, hrecorded⟩ := exists_result h read
  intro hmem
  rw [hrecorded] at hmem
  obtain ⟨step, hstep, hsource⟩ := List.mem_filterMap.mp hmem
  exact i.source?_ne_standardInput hgiven (mem_of_mem_taken hstep) hsource

end

/-- **Failures are clean and classified.**  The exit code is 0, 1 or 2; unless it is 0, nothing is
printed but the message of the first step that fails.  It is 2 if that step was to get at a text and
1 if it was not.  In a world, a step fails to get at its text just if the source is missing or is
not valid UTF-8.  Standard input is not read where the input is an argument, and the German rules
never exit with 1. -/
theorem outcome_of_firstFailure {arguments : List String} {i : Invocation}
    (h : Invocation.ofArguments arguments = .ok i) (read : Source → Except ReadError String) :
    let o := outcome read arguments
    (o.code = 0 ∨ o.code = 1 ∨ o.code = 2) ∧
    (o.code ≠ 0 → o.stdout = "" ∧ ∃ step e, firstFailure? read i.steps = some (step, e) ∧
      o.stderr = "error: " ++ e.text ++ "\n") ∧
    (o.code = 2 ↔ ∃ step e, firstFailure? read i.steps = some (step, e) ∧ step.isReading = true) ∧
    (o.code = 1 ↔ ∃ step e, firstFailure? read i.steps = some (step, e) ∧ step.isReading = false) ∧
    ((recorded read arguments).1 = o ∧
      (i.input.isSome → .standardInput ∉ (recorded read arguments).2)) ∧
    (i.command = .german → o.code ≠ 1) ∧
    ∀ (w : World) (step : Step), step.isReading = true → ((step.failure? w.read).isSome ↔
      ∃ source, step.source? = some source ∧
        (w.bytes? source).bind String.fromUTF8? = none) := by
  intro o
  have hrecorded : (recorded read arguments).1 = o ∧
      (i.input.isSome → .standardInput ∉ (recorded read arguments).2) := by
    obtain ⟨result, -, ho, hsame⟩ := exists_result h read
    exact ⟨by rw [hsame, ← ho], standardInput_notMem_recorded h⟩
  cases hfirst : firstFailure? read i.steps with
  | none =>
      have hcode : o.code = 0 := code_of_firstFailure?_eq_none h hfirst
      refine ⟨.inl hcode, fun hne => absurd hcode hne, ?_, ?_, hrecorded, ?_,
        fun _ _ => Step.isSome_failure?_iff⟩ <;> simp [hcode]
  | some failure =>
      obtain ⟨step, e⟩ := failure
      have ho : o = ⟨if step.isReading then 2 else 1, "", "error: " ++ e.text ++ "\n"⟩ :=
        outcome_of_firstFailure?_eq_some h hfirst
      have hkind : ∀ b, (∃ step' e', some (step, e) = some (step', e') ∧ step'.isReading = b) ↔
          step.isReading = b := fun b => by simp
      have hgerman : i.command = .german → step.isReading = true := fun hcommand =>
        i.isReading_of_german hcommand (failure?_of_firstFailure? hfirst).1
      have hcode : o.code = if step.isReading then 2 else 1 := congrArg Outcome.code ho
      have hclean : o.stdout = "" ∧ o.stderr = "error: " ++ e.text ++ "\n" :=
        ⟨congrArg Outcome.stdout ho, congrArg Outcome.stderr ho⟩
      rw [hkind, hkind, hcode]
      refine ⟨?_, fun _ => ⟨hclean.1, step, e, rfl, hclean.2⟩, ?_, ?_, hrecorded,
        fun hcommand => ?_, fun _ _ => Step.isSome_failure?_iff⟩
      · cases step.isReading <;> decide
      · cases step.isReading <;> decide
      · cases step.isReading <;> decide
      · rw [hgerman hcommand]
        decide

/-- The rules are wrong and standard input is no text, which is found out first. -/
theorem outcome_of_firstFailure_notUtf8 :
    let w : World :=
      { files := [("rules", "\"(\"->\"\"".toUTF8)], standardInput := ⟨#[0xff]⟩ }
    let arguments := ["replace", "-r", "./rules", "--report"]
    ∃ i, Invocation.ofArguments arguments = .ok i ∧ (w.run arguments).code = 2 ∧
      (w.run arguments).stdout = "" ∧ (w.run arguments).stderr
        = "error: failed to read stdin: stream did not contain valid UTF-8\n" ∧
      (w.bytes? .standardInput).bind String.fromUTF8? = none := by
  intro w arguments
  let c : ReplaceCommand := ⟨"./rules", false, false, false, false, true⟩
  let i : Invocation := ⟨.replace c, none, false⟩
  have hi : Invocation.ofArguments arguments = .ok i := by decide +kernel
  have hfirst : firstFailure? w.read i.steps
      = some (.input none, .unreadable .standardInput .notUtf8) := by decide +kernel
  obtain ⟨-, hclean, hcode, -, -, -, hworld⟩ := outcome_of_firstFailure hi w.read
  have htwo := hcode.mpr ⟨_, _, hfirst, rfl⟩
  obtain ⟨hout, step, e, hfailure, herr⟩ := hclean (by rw [htwo]; decide)
  rw [hfirst] at hfailure
  cases hfailure
  have htext : "error: " ++ (CommandError.unreadable .standardInput .notUtf8).text ++ "\n"
      = "error: failed to read stdin: stream did not contain valid UTF-8\n" := by decide +kernel
  have hfailure : (Step.input none).failure? w.read
      = some (.unreadable .standardInput .notUtf8) := (failure?_of_firstFailure? hfirst).2
  obtain ⟨source, hsource, hbytes⟩ := (hworld w (.input none) rfl).mp (by rw [hfailure]; rfl)
  cases hsource
  rw [World.run_eq]
  exact ⟨i, hi, htwo, hout, herr.trans htext, hbytes⟩

end Scratchpad.CommandLine
