import Scratchpad.Note.Span

/-!
# Deleting a note

Taking a note out leaves a hole between two delimiters, or between a delimiter and an end of the
text.  `closeGap` joins the two sides and removes the delimiter that has become superfluous.

* `closeGap` — join what stands before and behind the hole.
* `deleteRange` — the same for two byte offsets of any kind.
* `Delimiter.deleteAt`, `Delimiter.cutAt` — delete the note at a cursor.
-/

namespace Scratchpad.Note

open Text

/-- Join what stands before and behind a hole: a delimiter on both sides of it becomes one, and
then one delimiter is dropped at each end of the text.  Two delimiters and nothing else are the
empty text.  With an empty delimiter there is nothing to drop. -/
def closeGap (delimiter before after : List Char) : List Char :=
  if delimiter.isEmpty then before ++ after
  else if before ++ after = delimiter ++ delimiter then []
  else
    let after :=
      if delimiter.isSuffixOf before && delimiter.isPrefixOf after then
        after.drop delimiter.length
      else after
    dropClosing delimiter (dropOpening delimiter (before ++ after))

/-- Delete the bytes from `left` to `right`.  Offsets go down to character boundaries, and a
range that ends before it begins is empty. -/
def deleteRange (delimiter text : List Char) (left right : Nat) : List Char :=
  let left := floorOffset left text
  let right := max (floorOffset right text) left
  closeGap delimiter (splitAtByte left text).1 (splitAtByte right text).2

/-- A note that was cut out, and the text without it. -/
structure Cut where
  note : List Char
  remaining : List Char
  deriving DecidableEq

namespace Delimiter

variable (d : Delimiter)

/-- The text without the note at the cursor. -/
def deleteAt (text : List Char) (cursor : Nat) : List Char :=
  let s := d.span text cursor
  deleteRange d.chars text s.left s.right

/-- Cut out the note at the cursor. -/
def cutAt (text : List Char) (cursor : Nat) : Cut :=
  ⟨d.noteAt text cursor, d.deleteAt text cursor⟩

/-- The text with the note at the cursor replaced by `new`. -/
def replaceNoteAt (text : List Char) (cursor : Nat) (new : List Char) : List Char :=
  let s := d.span text cursor
  (splitAtByte s.left text).1 ++ new ++ (splitAtByte s.right text).2

end Delimiter

end Scratchpad.Note
