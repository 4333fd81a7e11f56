import Scratchpad.Pattern.Syntax
import Scratchpad.Pattern.Cause

/-!
# The depth of a pattern

Patterns may be nested only so deep.  Every pair of parentheses or brackets counts, and so does
every repetition, alternation, sequence or combination of sets.

* `Tree.tooDeep?` — the first part, from the left and from the outside, that is nested too deep.
-/

namespace Scratchpad.Pattern

/-- The part itself if the depth is used up, else what its parts say. -/
def unlessDeep (span : Span) (depth : Nat) (parts : Option Span) : Option Span :=
  if maxDepth ≤ depth then some span else parts

mutual

/-- The first set that is nested too deep, when `depth` levels are around it. -/
def SetSyntax.tooDeep? (depth : Nat) : SetSyntax → Option Span
  | .bracketed span _ inner => unlessDeep span depth (inner.tooDeep? (depth + 1))
  | .union span items => unlessDeep span depth (firstSetTooDeep? (depth + 1) items)
  | .binary span _ left right =>
    unlessDeep span depth ((left.tooDeep? (depth + 1)).or (right.tooDeep? (depth + 1)))
  | _ => none

/-- The same for the items of a list. -/
def firstSetTooDeep? (depth : Nat) : List SetSyntax → Option Span
  | [] => none
  | item :: items => (item.tooDeep? depth).or (firstSetTooDeep? depth items)

end

mutual

/-- The first part that is nested too deep, when `depth` levels are around the pattern. -/
def Tree.tooDeep? (depth : Nat) : Tree → Option Span
  | .brackets span _ inner => unlessDeep span depth (inner.tooDeep? (depth + 1))
  | .repetition span _ _ _ inner => unlessDeep span depth (inner.tooDeep? (depth + 1))
  | .group span _ inner => unlessDeep span depth (inner.tooDeep? (depth + 1))
  | .alternation span branches => unlessDeep span depth (firstTooDeep? (depth + 1) branches)
  | .concat span items => unlessDeep span depth (firstTooDeep? (depth + 1) items)
  | _ => none

/-- The same for the items of a list. -/
def firstTooDeep? (depth : Nat) : List Tree → Option Span
  | [] => none
  | item :: items => (item.tooDeep? depth).or (firstTooDeep? depth items)

end

/-- Accept a pattern that is not nested too deep. -/
def Tree.checkDepth (t : Tree) : Except Failure Unit :=
  match t.tooDeep? 0 with
  | some span => .error ⟨span, .tooDeep⟩
  | none => .ok ()

end Scratchpad.Pattern
