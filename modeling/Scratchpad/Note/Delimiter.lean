import Scratchpad.Error

/-!
# The note delimiter

One text holds many notes, separated by a fixed delimiter that is never empty.
-/

namespace Scratchpad.Note

/-- A text that separates notes.  It is not empty, so that notes between two delimiters are well
defined and a search for the next delimiter makes progress. -/
structure Delimiter where
  chars : List Char
  chars_ne_nil : chars ≠ []
  deriving DecidableEq

/-- The delimiter that the scratchpad writes between notes. -/
def Delimiter.default : Delimiter :=
  ⟨")))---(((\n".toList, by decide⟩

/-- A text as a delimiter.  It must not be empty. -/
def Delimiter.ofString (s : String) : Except Error Delimiter :=
  if h : s.toList ≠ [] then .ok ⟨s.toList, h⟩ else .error .emptyDelimiter

end Scratchpad.Note
