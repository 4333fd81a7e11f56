import Scratchpad.CommandLine.Arguments
import Scratchpad.CommandLine.Report
import Scratchpad.German
import Scratchpad.Note.Delete
import Scratchpad.Sentence

/-!
# Executing a command

A command reads what it needs, computes, and says what to print.  Reading is left to the caller,
so that the same definition serves the program and any account of it.

* `Source`, `ReadError` — what is read, and what can go wrong.
* `Outcome` — what the program prints, and its exit code.
* `Command.execute` — a command.
* `execute` — the whole program, from its arguments.
-/

namespace Scratchpad.CommandLine

/-- What a command may read. -/
inductive Source where
  | file (path : String)
  | standardInput
  deriving DecidableEq, Repr

/-- The name of a source in messages. -/
def Source.name : Source → String
  | file path => path
  | standardInput => "stdin"

/-- Why something could not be read. -/
inductive ReadError where
  | notFound
  | permissionDenied
  | notDirectory
  | isDirectory
  | nameTooLong
  | notUtf8
  | other (description : String)
  deriving DecidableEq, Repr

/-- The reason in words, with the number that the system gives it. -/
def ReadError.message : ReadError → String
  | notFound => "No such file or directory (os error 2)"
  | permissionDenied => "Permission denied (os error 13)"
  | notDirectory => "Not a directory (os error 20)"
  | isDirectory => "Is a directory (os error 21)"
  | nameTooLong => "File name too long (os error 36)"
  | notUtf8 => "stream did not contain valid UTF-8"
  | other description => description

/-- Why a command failed. -/
inductive CommandError where
  | unreadable (source : Source) (reason : ReadError)
  | failed (reason : Error)
  deriving DecidableEq, Repr

/-- The line that is printed for an error. -/
def CommandError.message : CommandError → String
  | unreadable source reason =>
    "error: failed to read " ++ source.name ++ ": " ++ reason.message ++ "\n"
  | failed reason => "error: " ++ reason.message ++ "\n"

/-- The exit code for an error: 1 if a rule, a pattern or a delimiter is wrong, 2 if something
could not be read. -/
def CommandError.exitCode : CommandError → Nat
  | unreadable _ _ => 2
  | failed _ => 1

/-- What the program prints, and its exit code. -/
structure Outcome where
  code : Nat
  stdout : String
  stderr : String
  deriving DecidableEq, Repr

/-- What a successful command prints. -/
structure Printed where
  stdout : String
  stderr : String := ""
  deriving DecidableEq, Repr

/-- The outcome of a command. -/
def Outcome.ofResult : Except CommandError Printed → Outcome
  | .ok p => ⟨0, p.stdout, p.stderr⟩
  | .error e => ⟨e.exitCode, "", e.message⟩

section

variable {m : Type → Type} [Monad m] (read : Source → m (Except ReadError String))

/-- Read a source. -/
def readSource (source : Source) : ExceptT CommandError m String := do
  match ← read source with
  | .ok text => return text
  | .error reason => throw (.unreadable source reason)

/-- The input: standard input is read only if none is given as an argument. -/
def readInput (input : Option String) : ExceptT CommandError m String :=
  match input with
  | some text => pure text
  | none => readSource read .standardInput

/-- Go on with what the library returns. -/
def lift {α : Type} (result : Except Error α) : ExceptT CommandError m α :=
  match result with
  | .ok a => pure a
  | .error reason => throw (.failed reason)

/-- Apply a rule file to the input. -/
def ReplaceCommand.execute (c : ReplaceCommand) (input : Option String) (color : Bool) :
    ExceptT CommandError m Printed := do
  let ruleText ← readSource read (.file c.rules)
  let input ← readInput read input
  let rules := Rule.readAll ruleText
  let run ← lift (applyRules rules input ⟨c.wholeWords, c.preserveCase, c.log || c.report⟩)
  let output := if c.capitalize then Capitalizer.default.apply run.text else run.text
  let aside :=
    if c.report then renderReport color input rules run else if c.log then run.log.render else ""
  return ⟨output, aside⟩

/-- The delimiter that an argument describes: a backslash before an `n` makes a line break. -/
def delimiterText (argument : String) : String :=
  .ofList (Text.replaceAll ['\\', 'n'] ['\n'] argument.toList)

/-- Find, show or delete the note at a cursor. -/
def NoteCommand.execute (c : NoteCommand) (input : Option String) :
    ExceptT CommandError m Printed := do
  let input ← readInput read input
  let text := input.toList
  let d ← lift (Note.Delimiter.ofString (delimiterText c.delimiter))
  let cursor := if c.utf16 then Text.byteOfUtf16 c.cursor text else c.cursor
  match c.action with
  | .span =>
    let s := d.span text cursor
    return ⟨toString s.left ++ " " ++ toString s.right ++ "\n", ""⟩
  | .crop => return ⟨.ofList (d.noteAt text cursor), ""⟩
  | .delete => return ⟨.ofList (d.deleteAt text cursor), ""⟩

/-- Execute a command. -/
def Invocation.execute (i : Invocation) : ExceptT CommandError m Printed :=
  match i.command with
  | .replace c => c.execute read i.input i.color
  | .german => do
    let input ← readInput read i.input
    let text ← lift (fromYouToMe input)
    return ⟨text, ""⟩
  | .capitalize pattern => do
    let capitalizer ← lift (match pattern with
      | some p => Capitalizer.ofPattern p
      | none => .ok Capitalizer.default)
    let input ← readInput read i.input
    return ⟨capitalizer.apply input, ""⟩
  | .note c => c.execute read i.input

/-- The version of the program. -/
def versionLine : String := "rulepad 0.1.0\n"

/-- How the program is called. -/
def usage : String := "Usage: rulepad [OPTIONS] <replace|du2ich|capitalize|note>\n"

/-- Run the program. -/
def execute (arguments : List String) : m Outcome :=
  match Invocation.ofArguments arguments with
  | .ok invocation => do return .ofResult (← (invocation.execute read).run)
  | .error .version => pure ⟨0, versionLine, ""⟩
  | .error .help => pure ⟨0, usage, ""⟩
  | .error .refused => pure ⟨2, "", "error: invalid arguments\n\n" ++ usage⟩

end

end Scratchpad.CommandLine
