import Scratchpad.Pattern.Regex
import Scratchpad.Text.Quoted

/-!
# Errors

What can go wrong when rules are applied, notes are searched or sentences are capitalized.  Rules
are counted from 0 inside the library and from 1 in messages.
-/

namespace Scratchpad

/-- Why an operation failed. -/
inductive Error where
  | invalidPattern (index : Nat) (pattern : String) (reason : Pattern.PatternError)
  | unknownFlag (index : Nat) (flag : Char)
  | emptyDelimiter
  | invalidSentencePattern (reason : Pattern.PatternError)
  deriving DecidableEq, Repr

/-- The error in words. -/
def Error.message : Error → String
  | invalidPattern index pattern reason =>
    "rule " ++ toString (index + 1) ++ " has an invalid pattern " ++ Text.quoted pattern ++ ": " ++
      reason.message
  | unknownFlag index flag =>
    "rule " ++ toString (index + 1) ++ " uses unsupported pattern flag '" ++ flag.toString ++ "'"
  | emptyDelimiter => "note delimiter must not be empty"
  | invalidSentencePattern reason => "invalid sentence-end pattern: " ++ reason.message

end Scratchpad
