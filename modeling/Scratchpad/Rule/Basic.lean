/-!
# Replacement rules

A rule is written `"pattern"flags->"replacement"flags`.  Nothing between the quotes is escaped,
so a rule is shown exactly as it is read.

* `Rule` — the four parts of a rule.
* `Rule.deletes` — whether the rule removes its matches.
* `Rule.describe` — the written form.
-/

namespace Scratchpad

/-- One replacement rule: its pattern, what to write instead, and the letters behind each. -/
structure Rule where
  pattern : String
  patternFlags : String := ""
  replacement : String := ""
  replacementFlags : String := ""
  deriving DecidableEq, Repr, Inhabited

namespace Rule

/-- The replacement flags of a rule that deletes. -/
def deleteFlag : String := "x"

/-- A rule deletes what it matches if its replacement flags are `x` and nothing else. -/
def deletes (r : Rule) : Bool := r.replacementFlags == deleteFlag

/-- The written form of a rule. -/
def describe (r : Rule) : String :=
  "\"" ++ r.pattern ++ "\"" ++ r.patternFlags ++ "->\"" ++ r.replacement ++ "\"" ++ r.replacementFlags

end Rule

end Scratchpad
