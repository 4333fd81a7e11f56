import Scratchpad.Note.Delimiter
import Scratchpad.Text.Offset
import Scratchpad.Text.Search

/-!
# The note at a cursor

A cursor is a byte offset of any size.  It is first moved down to a character boundary and then,
if it falls inside a delimiter, to that delimiter's beginning, so that a cursor on a delimiter
belongs to the note before it.

* `Delimiter.snap` — the offset from which the search goes out.
* `Delimiter.leftIndex`, `Delimiter.rightIndex` — where the note begins and ends.
* `Delimiter.span`, `Delimiter.noteAt` — both ends, and the text between them.
* `Delimiter.notes` — all notes of a text.
-/

namespace Scratchpad.Note

open Text

/-- The bytes `[left, right)` of one note. -/
structure Span where
  left : Nat
  right : Nat
  deriving DecidableEq, Repr

/-- The number of bytes in the span. -/
def Span.size (s : Span) : Nat := s.right - s.left

/-- Whether the note is the empty text. -/
def Span.isEmpty (s : Span) : Bool := s.left == s.right

/-- The first offset in `[low, high)` at which `part` occurs.  The text given stands at offset
`offset`. -/
def firstOccurrence? (part : List Char) (low high : Nat) : (offset : Nat) → List Char → Option Nat
  | _, [] => none
  | offset, c :: cs =>
    if high ≤ offset then none
    else if low ≤ offset ∧ part.isPrefixOf (c :: cs) then some offset
    else firstOccurrence? part low high (offset + c.utf8Size) cs

namespace Delimiter

variable (d : Delimiter)

/-- The cursor at a character boundary and outside of every delimiter: of the delimiters that
begin before the cursor and end behind it the leftmost counts. -/
def snap (text : List Char) (cursor : Nat) : Nat :=
  let start := floorOffset cursor text
  let reach := start - (byteSize d.chars - 1)
  (firstOccurrence? d.chars reach start 0 text).getD start

/-- Where the note at the cursor begins: behind the last delimiter before it. -/
def leftIndex (text : List Char) (cursor : Nat) : Nat :=
  let before := (splitAtByte (d.snap text cursor) text).1
  match afterLast? d.chars before with
  | some rest => byteSize before - byteSize rest
  | none => 0

/-- Where the note at the cursor ends: at the first delimiter from it on. -/
def rightIndex (text : List Char) (cursor : Nat) : Nat :=
  let start := d.snap text cursor
  start + byteSize (beforeFirst d.chars (splitAtByte start text).2)

/-- The note at the cursor. -/
def span (text : List Char) (cursor : Nat) : Span :=
  ⟨d.leftIndex text cursor, d.rightIndex text cursor⟩

/-- The text of the note at the cursor. -/
def noteAt (text : List Char) (cursor : Nat) : List Char :=
  let s := d.span text cursor
  sliceBytes s.left s.right text

/-- All notes of the text, empty ones included. -/
def notes (text : List Char) : List (List Char) :=
  splitOn d.chars text

end Delimiter

end Scratchpad.Note
