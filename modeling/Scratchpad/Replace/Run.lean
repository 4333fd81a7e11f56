import Scratchpad.Replace.CompiledRule
import Scratchpad.Rule.File

/-!
# Running a rule set

Rules are applied one after the other, each to what the rules before it have left.  Every pass is
recorded, and the passes that found something are logged if so wished.

* `Options` — how to run.
* `LogEntry`, `Log` — what is logged.
* `Pass` — what is recorded of each pass.
* `Run` — the text so far, with its log and its passes.
* `applyRules` — run a rule set on a text.
-/

namespace Scratchpad

/-- How to run a rule set. -/
structure Options where
  wholeWords : Bool := false
  preserveCase : Bool := false
  log : Bool := false
  deriving DecidableEq, Repr

/-- A pass that found something. -/
structure LogEntry where
  ruleIndex : Nat
  matchCount : Nat
  description : String
  deriving DecidableEq, Repr

/-- The logged passes, in order. -/
abbrev Log := List LogEntry

namespace Log

/-- The number of all logged matches. -/
def total (l : Log) : Nat := l.foldl (fun n e => n + e.matchCount) 0

/-- One entry as a line. -/
def line (e : LogEntry) : String :=
  "#" ++ toString (e.ruleIndex + 1) ++ " (" ++ toString e.matchCount ++ "x): " ++ e.description ++
    "\n"

/-- The log as a text of lines. -/
def render (l : Log) : String := String.join (l.map line)

end Log

/-- What is recorded of a pass. -/
structure Pass where
  ruleIndex : Nat
  variant : Variant
  matchCount : Nat
  deriving DecidableEq, Repr

/-- Whether the pass found something. -/
def Pass.isProductive (p : Pass) : Bool := 0 < p.matchCount

/-- A text on its way through a rule set. -/
structure Run where
  text : String
  log : Log := []
  passes : List Pass := []
  deriving DecidableEq, Repr

namespace Run

/-- The passes that found something. -/
def productive (r : Run) : List Pass := r.passes.filter (·.isProductive)

/-- Apply one variant of a rule: count its matches, and replace them if there are any. -/
def pass (o : Options) (index : Nat) (rule : Rule) (variant : Variant) (r : Run) :
    Except Error Run := do
  let c ← Replace.CompiledRule.ofRule index rule variant o.wholeWords
  let count := c.count r.text
  let passes := r.passes ++ [⟨index, variant, count⟩]
  if count = 0 then return { r with passes := passes }
  let log := if o.log then r.log ++ [⟨index, count, c.description⟩] else r.log
  return ⟨c.replaceAll r.text, log, passes⟩

/-- Apply a rule, and then its capitalized variant where case is to be preserved. -/
def rule (o : Options) (index : Nat) (rule : Rule) (r : Run) : Except Error Run := do
  let r ← r.pass o index rule .asWritten
  if o.preserveCase then r.pass o index rule .capitalized else return r

/-- Apply the rules of a list, the first of which has the given index. -/
def rules (o : Options) : (index : Nat) → List Rule → Run → Except Error Run
  | _, [], r => .ok r
  | index, rule :: rest, r => do
    let r ← r.rule o index rule
    r.rules o (index + 1) rest

end Run

/-- Run a rule set on a text. -/
def applyRules (rules : List Rule) (subject : String) (o : Options) : Except Error Run :=
  ({ text := subject } : Run).rules o 0 rules

/-- Run the rules of a rule file on a text. -/
def applyRuleFile (ruleText subject : String) (o : Options) : Except Error Run :=
  applyRules (Rule.readAll ruleText) subject o

end Scratchpad
