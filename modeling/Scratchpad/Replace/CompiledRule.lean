import Scratchpad.Error
import Scratchpad.Replace.BackReference
import Scratchpad.Replace.Flags
import Scratchpad.Replace.Template
import Scratchpad.Rule.Basic
import Scratchpad.Unicode.UpperCase

/-!
# Compiled rules

A rule runs as it is written and, where case is to be preserved, once more with the first letters
of its pattern and of its replacement in upper case.

* `Variant`, `Rule.variant` — the two ways to run a rule.
* `effectivePattern` — the pattern with its flags, and restricted to whole words if so wished.
* `CompiledRule.ofRule` — compile a rule.
* `CompiledRule.count` — the number of matches in a text.
* `CompiledRule.replaceAll` — replace all matches in a text.
-/

namespace Scratchpad

open Pattern (Regex Match)

/-- A string with its first character in upper case. -/
def upperFirst (s : String) : String := .ofList (Unicode.capitalize s.toList)

/-- The two ways to run a rule. -/
inductive Variant where
  | asWritten
  | capitalized
  deriving DecidableEq, Repr

/-- The rule as one of its variants. -/
def Rule.variant (r : Rule) : Variant → Rule
  | .asWritten => r
  | .capitalized =>
    { r with pattern := upperFirst r.pattern, replacement := upperFirst r.replacement }

namespace Replace

/-- A rule that is ready to run: what to search for, what to write instead, and how the rule is
shown in the log. -/
structure CompiledRule where
  regex : Regex
  template : Template
  description : String
  deriving DecidableEq, Repr

/-- The pattern that is searched for: behind its flags, and between word boundaries if only whole
words count. -/
def effectivePattern (flags : PatternFlags) (wholeWords : Bool) (pattern : String) : String :=
  flags.directive ++ if wholeWords then "\\b(?:" ++ pattern ++ ")\\b" else pattern

/-- The template of a rule: a rule that deletes has an empty one. -/
def templateOf (r : Rule) (regex : Regex) : Template :=
  if r.deletes then []
  else .ofChars (templateText regex.groupCount (!regex.groupNames.isEmpty) r.replacement.toList)

/-- Compile the variant of a rule that stands at a place of a rule set.  Flags are looked at before
the pattern. -/
def CompiledRule.ofRule (index : Nat) (rule : Rule) (variant : Variant) (wholeWords : Bool) :
    Except Error CompiledRule :=
  match PatternFlags.ofLetters rule.patternFlags with
  | .error flag => .error (.unknownFlag index flag)
  | .ok flags =>
    let r := rule.variant variant
    match Regex.compile (effectivePattern flags wholeWords r.pattern) with
    | .error reason => .error (.invalidPattern index r.pattern reason)
    | .ok regex => .ok ⟨regex, templateOf r regex, r.describe⟩

/-- The characters between two places of a text. -/
def between (text : Array Char) (start stop : Nat) : List Char :=
  (text.extract start stop).toList

/-- What is written for a match. -/
def CompiledRule.expansion (c : CompiledRule) (text : Array Char) (m : Match) : List Char :=
  c.template.expand (fun n => (m.group? n).map fun g => between text g.1 g.2)
    (fun name => c.regex.groupNames.lookup name)

/-- The text from `start` on, with the matches replaced.  Each match lies behind the one before
it. -/
def substitute (text : Array Char) (write : Match → List Char) :
    (start : Nat) → List Match → List Char
  | start, [] => between text start text.size
  | start, m :: ms => between text start m.start ++ write m ++ substitute text write m.stop ms

/-- The text from `start` on, with the same written for all matches, of which only their ends are
known. -/
def substituteLiteral (text : Array Char) (literal : List Char) :
    (start : Nat) → List (Nat × Nat) → List Char
  | start, [] => between text start text.size
  | start, (first, behind) :: spans =>
    between text start first ++ literal ++ substituteLiteral text literal behind spans

/-- The number of matches in a text. -/
def CompiledRule.count (c : CompiledRule) (subject : String) : Nat :=
  (c.regex.findSpans subject.toList.toArray).length

/-- The text with all matches replaced.  A template without dollars is written as it is, and then
the groups of the matches are not asked for. -/
def CompiledRule.replaceAll (c : CompiledRule) (subject : String) : String :=
  let text := subject.toList.toArray
  match c.template.literal? with
  | some literal => .ofList (substituteLiteral text literal 0 (c.regex.findSpans text))
  | none => .ofList (substitute text (c.expansion text) 0 (c.regex.find text))

end Replace

end Scratchpad
