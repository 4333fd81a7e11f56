import Scratchpad.Proofs.CommandLine.Reading
import Scratchpad.Proofs.Replace.Passes
import Scratchpad.Proofs.Text.Search

/-!
# What commands print

A command that succeeds prints what the library returns for what the command has read.  The log and
the report are printed beside it and have no part in it.

* `lineBreaks`, `delimiterText_eq` — the delimiter that an argument describes.
* `ReplaceCommand.returned`, `NoteCommand.returned`, `Command.returned` — what the library returns.
* `Invocation.returned_of_execute` — what a command prints.
* **`stdout_eq_returned`** — what the program prints.
-/

namespace Scratchpad.CommandLine

open Text

/-! ## The delimiter that an argument describes -/

/-- Every backslash with an `n` behind it as a line break. -/
def lineBreaks : List Char → List Char
  | '\\' :: 'n' :: cs => '\n' :: lineBreaks cs
  | c :: cs => c :: lineBreaks cs
  | [] => []

lemma lineBreaks_cons {c : Char} {cs : List Char} (h : ¬ ['\\', 'n'] <+: c :: cs) :
    lineBreaks (c :: cs) = c :: lineBreaks cs := by
  rw [lineBreaks]
  rintro ds rfl rfl
  exact h ⟨ds, rfl⟩

/-- **The delimiter is the argument with line breaks.** -/
theorem delimiterText_eq (argument : String) :
    delimiterText argument = .ofList (lineBreaks argument.toList) := by
  have hpart : ['\\', 'n'] ≠ [] := by decide
  rw [delimiterText]
  congr 1
  induction argument.toList using occurrence_induction hpart with
  | nil => rw [replaceAll_nil, lineBreaks]
  | occurrence rest ih =>
      rw [replaceAll_part_append hpart, ih]
      rfl
  | char c cs h ih => rw [replaceAll_cons_of_notPrefix h, lineBreaks_cons h, ih]

lemma lineBreaks_eq_nil_iff {cs : List Char} : lineBreaks cs = [] ↔ cs = [] := by
  unfold lineBreaks
  split <;> simp

lemma delimiterText_eq_empty_iff {argument : String} :
    delimiterText argument = "" ↔ argument = "" := by
  rw [delimiterText_eq, ← String.toList_eq_nil_iff, String.toList_ofList, lineBreaks_eq_nil_iff,
    String.toList_eq_nil_iff]

/-! ## What the library returns -/

/-- A rule file applied to a text, with its sentences capitalized if so wished. -/
def ReplaceCommand.returned (c : ReplaceCommand) (log : Bool) (ruleText text : String) :
    Except Error String :=
  let o : Options := ⟨c.wholeWords, c.preserveCase, log⟩
  if c.capitalize then (applyAndCapitalize ruleText text o).map (·.text)
  else (applyRuleFile ruleText text o).map (·.text)

/-- The note at a cursor, what is left without it, or the place where it stands. -/
def NoteCommand.returned (c : NoteCommand) (text : String) : Except Error String :=
  let cs := text.toList
  let cursor := if c.utf16 then byteOfUtf16 c.cursor cs else c.cursor
  (Note.Delimiter.ofString (.ofList (lineBreaks c.delimiter.toList))).map fun d =>
    match c.action with
    | .span => toString (d.span cs cursor).left ++ " " ++ toString (d.span cs cursor).right ++ "\n"
    | .crop => .ofList (d.noteAt cs cursor)
    | .delete => .ofList (d.cutAt cs cursor).remaining

/-- What the library returns for a command, its rule file, if it has one, and its input. -/
def Command.returned (log : Bool) (ruleText text : String) : Command → Except Error String
  | replace c => c.returned log ruleText text
  | german => fromYouToMe text
  | capitalize none => .ok (Capitalizer.default.apply text)
  | capitalize (some pattern) => (Capitalizer.ofPattern pattern).map (·.apply text)
  | note c => c.returned text

/-! ## What commands print -/

section

variable {read : Source → Except ReadError String} {p : Printed}

lemma ReplaceCommand.returned_eq (c : ReplaceCommand) (log : Bool) {ruleText text output : String}
    (h : (applyRuleFile ruleText text ⟨c.wholeWords, c.preserveCase, log⟩).map (·.text)
      = .ok output) :
    c.returned log ruleText text
      = .ok (if c.capitalize then Capitalizer.default.apply output else output) := by
  unfold ReplaceCommand.returned applyAndCapitalize
  cases hrun : applyRuleFile ruleText text ⟨c.wholeWords, c.preserveCase, log⟩ with
  | error e =>
      rw [hrun] at h
      cases h
  | ok run =>
      rw [hrun] at h
      cases h
      dsimp only
      rw [hrun]
      cases c.capitalize <;> rfl

/-- What is replaced is printed, and the log only beside it. -/
lemma ReplaceCommand.returned_of_execute {c : ReplaceCommand} {given : Option String} {color : Bool}
    (h : (c.execute (m := Id) read given color).run.run = .ok p) (log : Bool) :
    ∃ ruleText text, read (.file c.rules) = .ok ruleText ∧ inputText read given = .ok text ∧
      c.returned log ruleText text = .ok p.stdout := by
  unfold ReplaceCommand.execute at h
  obtain ⟨ruleText, hfile, h⟩ := run_bind_eq_ok_iff.mp h
  obtain ⟨text, hinput, h⟩ := run_bind_eq_ok_iff.mp h
  obtain ⟨run, hrun, h⟩ := run_bind_eq_ok_iff.mp h
  rw [run_readSource_eq_ok_iff] at hfile
  rw [run_readInput_eq_ok_iff] at hinput
  rw [run_lift_eq_ok_iff] at hrun
  cases h
  have htext := Run.map_text_applyRules ⟨c.wholeWords, c.preserveCase, c.log || c.report⟩ log
    (Rule.readAll ruleText) text
  rw [hrun] at htext
  exact ⟨ruleText, text, hfile, hinput, c.returned_eq log htext⟩

lemma NoteCommand.returned_of_execute {c : NoteCommand} {given : Option String}
    (h : (c.execute (m := Id) read given).run.run = .ok p) :
    ∃ text, inputText read given = .ok text ∧ c.returned text = .ok p.stdout := by
  unfold NoteCommand.execute at h
  obtain ⟨text, hinput, h⟩ := run_bind_eq_ok_iff.mp h
  obtain ⟨d, hd, h⟩ := run_bind_eq_ok_iff.mp h
  rw [run_readInput_eq_ok_iff] at hinput
  rw [run_lift_eq_ok_iff, delimiterText_eq] at hd
  refine ⟨text, hinput, ?_⟩
  rw [NoteCommand.returned, hd]
  cases haction : c.action with
  | span | crop | delete =>
      rw [haction] at h
      cases h
      rfl

/-- **A command that succeeds prints what the library returns.** -/
theorem Invocation.returned_of_execute {i : Invocation}
    (h : (i.execute (m := Id) read).run.run = .ok p) (log : Bool) :
    ∃ ruleText text, (∀ c, i.command = .replace c → read (.file c.rules) = .ok ruleText) ∧
      inputText read i.input = .ok text ∧ i.command.returned log ruleText text = .ok p.stdout := by
  obtain ⟨command, given, color⟩ := i
  cases command with
  | replace c =>
      obtain ⟨ruleText, text, hfile, hinput, hreturned⟩ := c.returned_of_execute h log
      refine ⟨ruleText, text, fun d hd => ?_, hinput, hreturned⟩
      cases hd
      exact hfile
  | german =>
      obtain ⟨text, hinput, h⟩ := run_bind_eq_ok_iff.mp h
      obtain ⟨output, hgerman, h⟩ := run_bind_eq_ok_iff.mp h
      cases h
      exact ⟨"", text, nofun, run_readInput_eq_ok_iff.mp hinput, run_lift_eq_ok_iff.mp hgerman⟩
  | capitalize pattern =>
      obtain ⟨capitalizer, hpattern, h⟩ := run_bind_eq_ok_iff.mp h
      obtain ⟨text, hinput, h⟩ := run_bind_eq_ok_iff.mp h
      cases h
      refine ⟨"", text, nofun, run_readInput_eq_ok_iff.mp hinput, ?_⟩
      rw [run_lift_eq_ok_iff] at hpattern
      cases pattern with
      | none =>
          cases hpattern
          rfl
      | some pattern =>
          dsimp only at hpattern
          simp [Command.returned, hpattern, Except.map]
  | note c =>
      obtain ⟨text, hinput, hreturned⟩ := c.returned_of_execute h
      exact ⟨"", text, nofun, hinput, hreturned⟩

end

/-! ## What the program prints -/

/-- What the program prints, and its exit code, where sources can be read as given. -/
def outcome (read : Source → Except ReadError String) (arguments : List String) : Outcome :=
  (execute (m := Id) read arguments).run

/-- In a world, the sources are its files and its standard input. -/
lemma World.run_eq (w : World) (arguments : List String) :
    w.run arguments = outcome w.read arguments := rfl

lemma outcome_of_ofArguments {arguments : List String} {i : Invocation}
    (h : Invocation.ofArguments arguments = .ok i) (read : Source → Except ReadError String) :
    outcome read arguments = .ofResult (i.execute (m := Id) read).run.run := by
  rw [outcome, execute, h]
  rfl

/-- **The program prints what the library returns.**  If it exits with code 0, it has read its rule
file and its input, and standard output is what the library returns for them, whatever is logged or
reported. -/
theorem stdout_eq_returned {read : Source → Except ReadError String} {arguments : List String}
    {i : Invocation} (h : Invocation.ofArguments arguments = .ok i)
    (hcode : (outcome read arguments).code = 0) (log : Bool) :
    ∃ ruleText text, (∀ c, i.command = .replace c → read (.file c.rules) = .ok ruleText) ∧
      inputText read i.input = .ok text ∧
      i.command.returned log ruleText text = .ok (outcome read arguments).stdout := by
  rw [outcome_of_ofArguments h] at *
  cases hresult : (i.execute (m := Id) read).run.run with
  | error e =>
      rw [hresult] at hcode
      cases e <;> cases hcode
  | ok p => exact i.returned_of_execute hresult log

/-- A report, and capitalized sentences. -/
theorem stdout_eq_returned_report :
    let arguments := ["replace", "-wcr", "rules", "--report", "-i", "a cat. a category"]
    let read : Source → Except ReadError String := fun _ => .ok "\"cat\"->\"dog\""
    ∃ i, Invocation.ofArguments arguments = .ok i ∧ (outcome read arguments).code = 0 ∧
      (outcome read arguments).stdout = "A dog. A category" := by
  intro arguments read
  let c : ReplaceCommand := ⟨"rules", true, false, false, true, true⟩
  let i : Invocation := ⟨.replace c, some "a cat. a category", false⟩
  have hi : Invocation.ofArguments arguments = .ok i := by decide +kernel
  have hcode : (outcome read arguments).code = 0 := by decide +kernel
  obtain ⟨ruleText, text, hfile, hinput, hreturned⟩ := stdout_eq_returned hi hcode false
  cases hfile c rfl
  cases hinput
  have hdog : c.returned false "\"cat\"->\"dog\"" "a cat. a category"
      = .ok "A dog. A category" := by decide +kernel
  exact ⟨i, hi, hcode, (Except.ok.inj (hdog.symm.trans hreturned)).symm⟩

end Scratchpad.CommandLine
