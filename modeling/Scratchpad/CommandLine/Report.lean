import Scratchpad.Replace.Run

/-!
# The report of a run

A report shows the beginning of the input, the rules, every pass, the log and a line about time.
How long a run takes differs from run to run, so a sign stands in its place.

* `Palette` — whether and how to use color.
* `renderReport` — the whole report.
-/

namespace Scratchpad.CommandLine

/-- A color or a weight of the terminal. -/
inductive Ink where
  | bold
  | dim
  | green
  | yellow
  | blue
  | cyan
  | gray
  deriving DecidableEq, Repr

/-- The number of a color or a weight in the control sequence of the terminal. -/
def Ink.code : Ink → String
  | bold => "1"
  | dim => "2"
  | green => "32"
  | yellow => "33"
  | blue => "34"
  | cyan => "36"
  | gray => "90"

/-- Whether color is used. -/
structure Palette where
  enabled : Bool
  deriving DecidableEq, Repr

/-- A text in a color or a weight, if color is used. -/
def Palette.paint (p : Palette) (ink : Ink) (s : String) : String :=
  if p.enabled then "\x1b[" ++ ink.code ++ "m" ++ s ++ "\x1b[0m" else s

/-- The sign that stands for a time. -/
def timeSign : String := "<T>"

/-- How much of the input a report shows. -/
def previewLength : Nat := 60

/-- The beginning of the input on one line. -/
def preview (input : String) : String :=
  let shown := input.toList.take previewLength
  let mark := if shown.length < input.length then ['…'] else []
  .ofList ((shown ++ mark).map fun c => if c = '\n' then '⏎' else c)

/-- Lines, each with its end. -/
def unlines (lines : List String) : String := String.join (lines.map (· ++ "\n"))

/-- A number from 1 on for what is counted from 0. -/
def ordinal (index : Nat) : String := toString (index + 1)

/-- The rules, or why there may be none. -/
def ruleLines (p : Palette) (rules : List Rule) : List String :=
  if rules.isEmpty then
    [p.paint .dim "  No rules parsed", "", p.paint .yellow "Possible reasons:",
      "  • Pattern or replacement is missing its closing quote",
      "  • The arrow is not written as ->",
      "  • Flags contain uppercase letters or digits"]
  else
    rules.zipIdx.map fun (r, index) =>
      "  " ++ p.paint .gray ("[" ++ ordinal index ++ "]") ++ " " ++ p.paint .blue r.describe

/-- One pass. -/
def passLine (p : Palette) (pass : Pass) : String :=
  let label := "Rule " ++ ordinal pass.ruleIndex ++
    if pass.variant = .capitalized then " (Capitalized):" else ":"
  let found :=
    if pass.isProductive then p.paint .green ("✓ " ++ toString pass.matchCount ++ " matches")
    else p.paint .dim "✗ 0 matches"
  "  " ++ p.paint .blue label ++ " " ++ found ++ "  " ++ p.paint .dim timeSign

/-- All passes. -/
def passLines (p : Palette) (passes : List Pass) : List String :=
  if passes.isEmpty then [p.paint .dim "  No passes run"] else passes.map (passLine p)

/-- One entry of the log. -/
def logLine (p : Palette) (e : LogEntry) : String :=
  "  " ++ p.paint .gray ("#" ++ ordinal e.ruleIndex) ++ " " ++
    p.paint .bold (p.paint .green (toString e.matchCount ++ "x")) ++ " " ++
    p.paint .cyan e.description

/-- The whole log. -/
def logLines (p : Palette) (log : Log) : List String :=
  if log.isEmpty then [p.paint .dim "  Nothing replaced"] else log.map (logLine p)

/-- The heading of a section, with an empty line before it. -/
def heading (p : Palette) (title : String) : List String :=
  ["", p.paint .gray ("━━━ " ++ title ++ " ━━━")]

/-- The report of a run of rules on an input. -/
def renderReport (color : Bool) (input : String) (rules : List Rule) (run : Run) : String :=
  let p : Palette := ⟨color⟩
  let title := "⚙  Replacing in: \"" ++ preview input ++ "\""
  unlines (
    ["", p.paint .bold (p.paint .cyan title)] ++
    heading p "Rules" ++ ruleLines p rules ++
    heading p "Passes" ++ passLines p run.passes ++
    heading p "Log" ++ logLines p run.log ++
    heading p "Timing" ++
    ["  Parse: " ++ p.paint .dim timeSign ++ "  │  Replace: " ++ p.paint .green timeSign ++
      "  │  Passes: " ++ p.paint .yellow (toString run.passes.length), ""])

end Scratchpad.CommandLine
