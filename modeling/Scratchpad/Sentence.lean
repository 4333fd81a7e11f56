import Scratchpad.Error
import Scratchpad.Replace.Run

/-!
# Capitalizing sentences

A pattern says where sentences end.  The text between two matches is a sentence and begins with
upper case; the matches themselves are kept as they are.

* `defaultSentenceEnd` — a full stop, exclamation mark, colon or question mark with white space
  behind it, or the opening of a cloze.
* `Capitalizer.ofPattern` — a capitalizer for a pattern.
* `Capitalizer.apply` — capitalize a text.
* `applyAndCapitalize` — apply a rule file first.
-/

namespace Scratchpad

open Pattern (Regex Match)

/-- Where sentences end, unless a pattern is given. -/
def defaultSentenceEnd : String := "[.!:?]\\s+|\\\x7b\\\x7bc\\d\x7b1,2\x7d::"

/-- A compiled pattern for the ends of sentences. -/
structure Capitalizer where
  sentenceEnd : Regex
  deriving DecidableEq, Repr

namespace Capitalizer

/-- A capitalizer for a pattern. -/
def ofPattern (pattern : String) : Except Error Capitalizer :=
  match Regex.compile pattern with
  | .ok regex => .ok ⟨regex⟩
  | .error reason => .error (.invalidSentencePattern reason)

/-- The text from `start` on, given the matches behind that place. -/
def sentences (text : Array Char) : (start : Nat) → List Match → List Char
  | start, [] => Unicode.capitalize (Replace.between text start text.size)
  | start, m :: ms =>
    Unicode.capitalize (Replace.between text start m.start) ++
      Replace.between text m.start m.stop ++ sentences text m.stop ms

/-- Capitalize every sentence of a text. -/
def apply (c : Capitalizer) (s : String) : String :=
  let text := s.toList.toArray
  .ofList (sentences text 0 (c.sentenceEnd.find text))

/-- The default pattern is well formed. -/
theorem isOk_compile_default : (Regex.compile defaultSentenceEnd).isOk = true := by decide +kernel

/-- The capitalizer for the default pattern. -/
def default : Capitalizer :=
  match h : Regex.compile defaultSentenceEnd with
  | .ok regex => ⟨regex⟩
  | .error e => absurd isOk_compile_default (by simp [h, Except.isOk, Except.toBool])

end Capitalizer

/-- Run the rules of a rule file on a text, and then capitalize its sentences. -/
def applyAndCapitalize (ruleText subject : String) (o : Options) : Except Error Run :=
  (applyRuleFile ruleText subject o).map fun r =>
    { r with text := Capitalizer.default.apply r.text }

end Scratchpad
