import Scratchpad.Pattern.Cause

/-!
# Error messages for patterns

A message shows the pattern with marks under the part that is wrong, and then gives the reason.  A
pattern of several lines is shown with line numbers between two rulers, and a part that runs over
several lines is described in words.

* `linesOf` — the lines of a text.
* `Failure.describe` — the message for a failure.
-/

namespace Scratchpad.Pattern

/-- The lines of a text, without their ends.  The characters of the current line come last one
first.  A carriage return belongs to the line break behind it. -/
def linesOf (line : List Char) : List Char → List (List Char)
  | [] => if line.isEmpty then [] else [line.reverse]
  | '\n' :: cs =>
    (match line with
      | '\r' :: line => line.reverse
      | line => line.reverse) :: linesOf [] cs
  | c :: cs => linesOf (c :: line) cs

/-- The spans in the order in which they stand in the pattern. -/
def sortSpans (spans : List Span) : List Span := spans.mergeSort Span.before

/-- Marks under the columns of spans on one line, from column `column` on.  An empty span is marked
too. -/
def marks (column : Nat) : List Span → List Char
  | [] => []
  | s :: rest =>
    let gap := s.start.column - column
    let size := max 1 (s.stop.column - s.start.column)
    List.replicate gap ' ' ++ List.replicate size '^' ++ marks (column + gap + size) rest

/-- A number with blanks before it, up to a width. -/
def padLeft (width n : Nat) : String :=
  let digits := toString n
  .ofList (List.replicate (width - digits.length) ' ') ++ digits

/-- The lines of the pattern with marks, when line numbers are `width` wide; a single line has
none. -/
def annotate (spans : List Span) (width : Nat) : (number : Nat) → List (List Char) → String
  | _, [] => ""
  | number, line :: lines =>
    let margin := if width = 0 then "    " else padLeft width number ++ ": "
    let here := sortSpans (spans.filter fun s => s.isOneLine && s.start.line == number)
    let under :=
      if here.isEmpty then ""
      else .ofList (List.replicate margin.length ' ' ++ marks 1 here) ++ "\n"
    margin ++ .ofList line ++ "\n" ++ under ++ annotate spans width (number + 1) lines

/-- A span over several lines in words. -/
def Span.inWords (s : Span) : String :=
  "on line " ++ toString s.start.line ++ " (column " ++ toString s.start.column ++
    ") through line " ++ toString s.stop.line ++ " (column " ++ toString (s.stop.column - 1) ++ ")"

/-- The message for a failure in a pattern. -/
def Failure.describe (f : Failure) (pattern : List Char) : String :=
  let spans := f.span :: f.cause.otherSpan?.toList
  let lines := linesOf [] pattern
  let count := lines.length + if pattern.getLast? = some '\n' then 1 else 0
  let width := if count ≤ 1 then 0 else (toString count).length
  let shown := annotate spans width 1 lines
  let reason := "error: " ++ f.cause.message
  if pattern.contains '\n' then
    let ruler := String.ofList (List.replicate 79 '~') ++ "\n"
    let long := sortSpans (spans.filter (!·.isOneLine))
    let inWords := if long.isEmpty then "" else "\n".intercalate (long.map Span.inWords) ++ "\n"
    "regex parse error:\n" ++ ruler ++ shown ++ ruler ++ inWords ++ reason
  else "regex parse error:\n" ++ shown ++ reason

end Scratchpad.Pattern
