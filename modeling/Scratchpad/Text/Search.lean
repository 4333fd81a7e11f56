/-!
# Finding one text in another

The four questions a separator raises: does it open or close the text, where does it occur first,
where last.  All are answered on lists of characters.

* `beforeFirst` — what stands before the first occurrence.
* `afterLast?` — what stands behind the last occurrence.
* `dropOpening`, `dropClosing` — remove one occurrence at an end of the text.
* `splitOn` — the pieces between successive occurrences that do not overlap.
* `replaceAll` — something else in the place of each of these occurrences.
-/

namespace Scratchpad.Text

/-- The characters before the first occurrence of `part`, or all of them. -/
def beforeFirst (part : List Char) : List Char → List Char
  | [] => []
  | c :: cs => if part.isPrefixOf (c :: cs) then [] else c :: beforeFirst part cs

/-- The characters behind the last occurrence of `part`, if it occurs. -/
def afterLast? (part : List Char) : List Char → Option (List Char)
  | [] => none
  | c :: cs =>
    match afterLast? part cs with
    | some rest => some rest
    | none => if part.isPrefixOf (c :: cs) then some ((c :: cs).drop part.length) else none

/-- The text without one occurrence of `part` at its beginning, if there is one. -/
def dropOpening (part text : List Char) : List Char :=
  if part.isPrefixOf text then text.drop part.length else text

/-- The text without one occurrence of `part` at its end, if there is one. -/
def dropClosing (part text : List Char) : List Char :=
  if part.isSuffixOf text then text.take (text.length - part.length) else text

/-- The pieces of the text between the occurrences of a non-empty `part`, taken from the left and
without overlap.  There is always at least one piece. -/
def splitOn (part : List Char) : List Char → List (List Char)
  | [] => [[]]
  | c :: cs =>
    if part.isPrefixOf (c :: cs) then [] :: splitOn part (cs.drop (part.length - 1))
    else (splitOn part cs).modifyHead (c :: ·)
  termination_by text => text.length
  decreasing_by all_goals simp; try omega

/-- Every occurrence of a non-empty `part`, from the left and without overlap, replaced. -/
def replaceAll (part new : List Char) (text : List Char) : List Char :=
  new.intercalate (splitOn part text)

end Scratchpad.Text
