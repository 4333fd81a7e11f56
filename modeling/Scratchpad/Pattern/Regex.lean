import Scratchpad.Pattern.Depth
import Scratchpad.Pattern.Footprint
import Scratchpad.Pattern.Meaning
import Scratchpad.Pattern.Message
import Scratchpad.Pattern.Reader
import Scratchpad.Pattern.Search

/-!
# Compiled patterns

* `PatternError` — why a pattern is refused.
* `Regex` — a pattern that can be searched for.
* `Regex.compile` — from a pattern to its compiled form.
* `Regex.find`, `Regex.findSpans` — all matches in a text, and where they are.
-/

namespace Scratchpad.Pattern

/-- Why a pattern is refused. -/
inductive PatternError where
  | malformed (pattern : String) (failure : Failure)
  | tooLarge
  deriving DecidableEq, Repr

/-- The error in words. -/
def PatternError.message : PatternError → String
  | malformed pattern failure => failure.describe pattern.toList
  | tooLarge => "Compiled regex exceeds size limit of " ++ toString maxFootprint ++ " bytes."

/-- A pattern that can be searched for. -/
structure Regex where
  expr : Expr
  program : Array Instr
  deriving DecidableEq, Repr

namespace Regex

/-- The expression that a pattern means, if it is well formed. -/
def meaning (pattern : List Char) : Except Failure Expr := do
  let tree ← readTree pattern
  tree.checkDepth
  let (e, _) ← tree.toExpr {}
  return e

/-- The compiled form of an expression. -/
def ofExpr (e : Expr) : Regex := ⟨e, e.program⟩

/-- Compile a pattern. -/
def compile (pattern : String) : Except PatternError Regex :=
  match meaning pattern.toList with
  | .error failure => .error (.malformed pattern failure)
  | .ok e => if e.tooLarge then .error .tooLarge else .ok (ofExpr e)

/-- All matches in a text. -/
def find (r : Regex) (text : Array Char) : List Match := allMatches r.program text

/-- Where all matches in a text begin and end.  Their groups are not asked for. -/
def findSpans (r : Regex) (text : Array Char) : List (Nat × Nat) := (r.find text).map Match.span

/-- The number of groups, with the whole match as group 0.  Groups are counted up to the last one
that is still in the expression. -/
def groupCount (r : Regex) : Nat := (r.expr.captures.map (·.1)).foldl max 0 + 1

/-- The groups that have names. -/
def groupNames (r : Regex) : List (String × Nat) :=
  r.expr.captures.filterMap fun c => c.2.map (·, c.1)

end Regex

end Scratchpad.Pattern
