/-!
# Command-line arguments

The first word that is no option names a command, and the options behind it belong to that command.
Short options can be written together, and a value can be written with its option or behind it.

* `OptionSpec` — an option that a command knows.
* `scan` — the options given, up to the first word that is none.
* `Command`, `Invocation` — what the arguments ask for.
* `Invocation.ofArguments` — read the arguments.
-/

namespace Scratchpad.CommandLine

/-! ## Options -/

/-- What an option takes. -/
inductive OptionValue where
  | flag
  | text
  | path
  | offset
  | action
  deriving DecidableEq, Repr

/-- An option that a command knows. -/
structure OptionSpec where
  long : String
  short : Option Char := none
  takes : OptionValue := .flag
  deriving DecidableEq, Repr

/-- Why the arguments ask for no command: they are wrong, or they ask for help or for the
version. -/
inductive Stop where
  | refused
  | help
  | version
  deriving DecidableEq, Repr

/-- The options given so far, each with its value, the last one first. -/
abbrev Given := List (String × String)

/-- Offsets are numbers of 64 bits. -/
def maxOffset : Nat := 18446744073709551615

/-- Read an offset in decimal digits, with an optional plus sign before them. -/
def readOffset? (s : String) : Option Nat :=
  let digits := match s.toList with | '+' :: ds => ds | ds => ds
  let value := digits.foldl (fun n c => n * 10 + (c.toNat - '0'.toNat)) 0
  if !digits.isEmpty && digits.all Char.isDigit && value ≤ maxOffset then some value else none

/-- What to do with the note at the cursor. -/
inductive Action where
  | span
  | crop
  | delete
  deriving DecidableEq, Repr

/-- The actions by their names. -/
def actionNames : List (String × Action) :=
  [("span", .span), ("crop", .crop), ("delete", .delete)]

/-- Whether an option accepts a value. -/
def OptionValue.accepts (v : String) : OptionValue → Bool
  | flag => false
  | text => true
  | path => !v.isEmpty
  | offset => (readOffset? v).isSome
  | action => (actionNames.lookup v).isSome

/-- Add an option with its value.  No option may be given twice, and asking for help or for the
version ends the reading. -/
def Given.add (given : Given) (spec : OptionSpec) (value : String) : Except Stop Given :=
  if spec.long = "help" then .error .help
  else if spec.long = "version" then .error .version
  else if (given.lookup spec.long).isSome then .error .refused
  else .ok ((spec.long, value) :: given)

/-- Add an option that takes a value, if it accepts the value. -/
def Given.addValue (given : Given) (spec : OptionSpec) (value : String) : Except Stop Given :=
  if spec.takes.accepts value then given.add spec value else .error .refused

/-- Read short options that are written together.  An option that takes a value takes the rest of
the word, with or without an equals sign; if nothing is left, its value is the next word. -/
def readShort (specs : List OptionSpec) :
    List Char → Given → Except Stop (Given × Option OptionSpec)
  | [], given => .ok (given, none)
  | c :: cs, given =>
    match specs.find? (·.short == some c) with
    | none => .error .refused
    | some spec =>
      if spec.takes = .flag then do
        let given ← given.add spec ""
        readShort specs cs given
      else match cs with
        | [] => .ok (given, some spec)
        | '=' :: value | value => do
          let given ← given.addValue spec (.ofList value)
          return (given, none)

/-- Read a long option, whose value may follow behind an equals sign. -/
def readLong (specs : List OptionSpec) (word : List Char) (given : Given) :
    Except Stop (Given × Option OptionSpec) :=
  let name : String := .ofList (word.takeWhile (· != '='))
  let value? : Option String := match word.dropWhile (· != '=') with
    | [] => none
    | _ :: value => some (.ofList value)
  match specs.find? (·.long == name), value? with
  | none, _ => .error .refused
  | some spec, value? =>
    if spec.takes = .flag then
      if value?.isSome then .error .refused
      else (given.add spec "").map (·, none)
    else match value? with
      | some value => (given.addValue spec value).map (·, none)
      | none => .ok (given, some spec)

/-- Read options up to the first word that is none, given an option that waits for its value.  A
word that begins with a hyphen is no value, unless it is a hyphen and nothing else. -/
def scan (specs : List OptionSpec) :
    (waiting : Option OptionSpec) → Given → List String → Except Stop (Given × List String)
  | none, given, [] => .ok (given, [])
  | some _, _, [] => .error .refused
  | some spec, given, word :: words =>
    if word.toList.head? = some '-' && word ≠ "-" then .error .refused
    else do
      let given ← given.addValue spec word
      scan specs none given words
  | none, given, word :: words =>
    match word.toList with
    | ['-', '-'] => if words.isEmpty then .ok (given, []) else .error .refused
    | '-' :: '-' :: name => do
      let (given, waiting) ← readLong specs name given
      scan specs waiting given words
    | '-' :: c :: cs => do
      let (given, waiting) ← readShort specs (c :: cs) given
      scan specs waiting given words
    | _ => .ok (given, word :: words)

/-! ## Commands -/

/-- Apply a rule file. -/
structure ReplaceCommand where
  rules : String
  wholeWords : Bool
  preserveCase : Bool
  log : Bool
  capitalize : Bool
  report : Bool
  deriving DecidableEq, Repr

/-- Find, show or delete the note at a cursor. -/
structure NoteCommand where
  cursor : Nat
  utf16 : Bool
  delimiter : String
  action : Action
  deriving DecidableEq, Repr

/-- What the program can do. -/
inductive Command where
  | replace (args : ReplaceCommand)
  | german
  | capitalize (pattern : Option String)
  | note (args : NoteCommand)
  deriving DecidableEq, Repr

/-- A command with what all commands share: the input, if it is given as an argument, and whether
to print in color. -/
structure Invocation where
  command : Command
  input : Option String
  color : Bool
  deriving DecidableEq, Repr

/-- The delimiter in the way it is written as an argument. -/
def defaultDelimiterArgument : String := ")))---(((\\n"

/-- The options that every command knows. -/
def sharedSpecs : List OptionSpec :=
  [⟨"color", none, .flag⟩, ⟨"no-color", none, .flag⟩, ⟨"help", some 'h', .flag⟩]

/-- The options of the program itself. -/
def programSpecs : List OptionSpec := sharedSpecs ++ [⟨"version", some 'V', .flag⟩]

/-- The options of a command, and which of them must be given. -/
def commandSpecs : List (String × List OptionSpec × List String) :=
  let input : OptionSpec := ⟨"input", some 'i', .text⟩
  [("replace",
      [⟨"rules", some 'r', .path⟩, ⟨"whole-words", some 'w', .flag⟩,
        ⟨"preserve-case", some 'p', .flag⟩, ⟨"log", none, .flag⟩, ⟨"capitalize", some 'c', .flag⟩,
        ⟨"report", none, .flag⟩, input],
      ["rules"]),
    ("du2ich", [input], []),
    ("capitalize", [⟨"pattern", none, .text⟩, input], []),
    ("note",
      [⟨"cursor", none, .offset⟩, ⟨"utf16", none, .flag⟩, ⟨"delimiter", none, .text⟩,
        ⟨"action", none, .action⟩, input],
      ["cursor"])]

/-- Whether an option was given. -/
def Given.has (given : Given) (name : String) : Bool := (given.lookup name).isSome

/-- The command of a name with the options given. -/
def Command.ofGiven (name : String) (given : Given) : Command :=
  if name = "replace" then
    .replace
      { rules := (given.lookup "rules").getD ""
        wholeWords := given.has "whole-words"
        preserveCase := given.has "preserve-case"
        log := given.has "log"
        capitalize := given.has "capitalize"
        report := given.has "report" }
  else if name = "du2ich" then .german
  else if name = "capitalize" then .capitalize (given.lookup "pattern")
  else
    .note
      { cursor := ((given.lookup "cursor").bind readOffset?).getD 0
        utf16 := given.has "utf16"
        delimiter := (given.lookup "delimiter").getD defaultDelimiterArgument
        action := ((given.lookup "action").bind (actionNames.lookup ·)).getD .crop }

/-- Color can be asked for or declined, but not both in one place. -/
def Given.checkColor (given : Given) : Except Stop Unit :=
  if given.has "color" && given.has "no-color" then .error .refused else .ok ()

/-- Read the words behind `help`, which may name one command. -/
def readHelp : List String → Stop
  | [] => .help
  | [name] => if name = "help" || (commandSpecs.lookup name).isSome then .help else .refused
  | _ => .refused

/-- Read the arguments.  Options of a command are checked before those of the program, and color
that is asked for anywhere is not declined elsewhere. -/
def Invocation.ofArguments (arguments : List String) : Except Stop Invocation := do
  let (outer, words) ← scan programSpecs none [] arguments
  match words with
  | [] => throw .refused
  | name :: words =>
    if name = "help" then throw (readHelp words)
    match commandSpecs.lookup name with
    | none => throw .refused
    | some (specs, required) =>
      let (given, rest) ← scan (specs ++ sharedSpecs) none [] words
      if !rest.isEmpty then throw .refused
      given.checkColor
      if required.any (!given.has ·) then throw .refused
      outer.checkColor
      return ⟨.ofGiven name given, given.lookup "input", outer.has "color" || given.has "color"⟩

end Scratchpad.CommandLine
