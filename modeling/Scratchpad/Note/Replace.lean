import Scratchpad.Note.Delete
import Scratchpad.Replace.Run

/-!
# Replacing inside one note

Rules can be applied to the note at the cursor alone.  What stands before and behind the note stays
as it is.
-/

namespace Scratchpad

/-- Run the rules of a rule file on the note at the cursor: the new text, and the log. -/
def applyInNote (d : Note.Delimiter) (text : List Char) (cursor : Nat) (ruleText : String)
    (o : Options) : Except Error (String × Log) := do
  let run ← applyRuleFile ruleText (.ofList (d.noteAt text cursor)) o
  return (.ofList (d.replaceNoteAt text cursor run.text.toList), run.log)

end Scratchpad
