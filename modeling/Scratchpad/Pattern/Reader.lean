import Scratchpad.Pattern.Bracket
import Scratchpad.Pattern.Group
import Scratchpad.Pattern.Repeat

/-!
# Reading a pattern

A pattern is read from left to right, one item at a time.  Groups that are open and alternations
that wait for their next branch form a stack.

* `Reader` — the state of the reader between two items.
* `Reader.step` — read one item.
* `Reader.finish` — the tree of a pattern that has been read to its end.
* `readTree` — a whole pattern.
-/

namespace Scratchpad.Pattern

/-- A sequence of items that is being read, the last one first, and where it begins. -/
structure Sequence where
  start : Position
  items : List Tree
  deriving Repr

namespace Sequence

/-- The sequence as a tree that ends at a place: one item stands for itself. -/
def toTree (s : Sequence) (stop : Position) : Tree :=
  match s.items with
  | [] => .empty ⟨s.start, stop⟩
  | [item] => item
  | items => .concat ⟨s.start, stop⟩ items.reverse

def push (s : Sequence) (item : Tree) : Sequence := { s with items := item :: s.items }

end Sequence

/-- What waits while a pattern is being read: the sequence around an open group, or the branches
of an alternation so far, the last one first. -/
inductive Frame where
  | group (outer : Sequence) (paren : Span) (kind : GroupKind) (extended : Bool)
  | branches (start : Position) (done : List Tree)
  deriving Repr

/-- A reader of patterns between two items. -/
structure Reader where
  cursor : Cursor
  extended : Bool
  captures : Nat
  names : List (String × Span)
  frames : List Frame
  current : Sequence
  deriving Repr

namespace Reader

/-- The reader at the beginning of a pattern. -/
def ofPattern (pattern : List Char) : Reader :=
  ⟨.ofPattern pattern, false, 0, [], [], ⟨.first, []⟩⟩

/-- Begin a new branch of an alternation. -/
def nextBranch (r : Reader) : Reader :=
  let c := r.cursor
  let branch := r.current.toTree c.pos
  let frames :=
    match r.frames with
    | .branches start done :: frames => .branches start (branch :: done) :: frames
    | frames => .branches r.current.start [branch] :: frames
  { r with cursor := c.bump, frames := frames, current := ⟨c.bump.pos, []⟩ }

/-- The state of the flag for extended patterns behind flag items. -/
def extendedBy (items : List FlagItem) (extended : Bool) : Bool :=
  (flagState? .extended items).getD extended

/-- Open a group, or apply flags to the rest of the current one. -/
def openGroup (r : Reader) : Except Failure Reader := do
  let c := r.cursor
  let (opening, d) ← readOpening r.extended r.names c
  let enter (kind : GroupKind) (extended : Bool) (r : Reader) : Reader :=
    { r with
      cursor := d
      extended := extended
      frames := .group r.current c.charSpan kind r.extended :: r.frames
      current := ⟨d.pos, []⟩ }
  match opening with
  | .directive items =>
    return { r with
      cursor := d
      extended := extendedBy items r.extended
      current := r.current.push (.flags ⟨c.pos, d.pos⟩ items) }
  | .flagged items => return enter (.flagged items) (extendedBy items r.extended) r
  | .capture name =>
    let r := { r with
      captures := r.captures + 1
      names := match name with | some n => n :: r.names | none => r.names }
    return enter (.capture r.captures (name.map (·.1))) r.extended r

/-- A sequence that a closing sign ends, together with the branches before it. -/
def closeBranches (stop : Position) (current : Sequence) (frames : List Frame) :
    Tree × List Frame :=
  let branch := current.toTree stop
  match frames with
  | .branches start done :: frames => (.alternation ⟨start, stop⟩ (branch :: done).reverse, frames)
  | frames => (branch, frames)

/-- Close the innermost group. -/
def closeGroup (r : Reader) : Except Failure Reader :=
  let c := r.cursor
  let (inner, frames) := closeBranches c.pos r.current r.frames
  match frames with
  | .group outer paren kind extended :: frames =>
    let d := c.bump
    .ok { r with
      cursor := d
      extended := extended
      frames := frames
      current := outer.push (.group ⟨paren.start, d.pos⟩ kind inner) }
  | _ => .error ⟨c.charSpan, .groupUnopened⟩

/-- Repeat the last item.  Flags and nothing cannot be repeated. -/
def repeatLast (r : Reader) : Except Failure Reader := do
  let c := r.cursor
  match r.current.items with
  | [] | .empty _ :: _ | .flags _ _ :: _ => throw ⟨c.here, .nothingToRepeat⟩
  | item :: items =>
    let (rep, d) ← readRepeat r.extended c
    let item := .repetition ⟨item.span.start, d.pos⟩ rep.least rep.most rep.greedy item
    return { r with cursor := d, current := { r.current with items := item :: items } }

/-- Read one item. -/
def step (r : Reader) : Except Failure Reader :=
  let c := r.cursor.skipSpace r.extended
  let r := { r with cursor := c }
  match c.rest with
  | [] => .ok r
  | ch :: _ =>
    if ch = '(' then r.openGroup
    else if ch = ')' then r.closeGroup
    else if ch = '|' then .ok r.nextBranch
    else if ch = '[' then do
      let (set, c) ← readBrackets r.extended c
      return { r with cursor := c, current := r.current.push set }
    else if ch = '?' || ch = '*' || ch = '+' || ch = '{' then r.repeatLast
    else do
      let (a, c) ← readAtom r.extended c
      return { r with cursor := c, current := r.current.push (.atom a) }

/-- Read items until nothing is left.  Every step takes at least one character. -/
def run : (fuel : Nat) → Reader → Except Failure Reader
  | 0, r => .ok r
  | fuel + 1, r =>
    if r.cursor.atEnd then .ok r
    else match r.step with
      | .ok r => r.run fuel
      | .error e => .error e

/-- The tree of a pattern that has been read to its end.  No group may be open. -/
def finish (r : Reader) : Except Failure Tree :=
  match closeBranches r.cursor.pos r.current r.frames with
  | (tree, []) => .ok tree
  | (_, .group _ paren _ _ :: _) => .error ⟨paren, .groupUnclosed⟩
  | (tree, _) => .ok tree

end Reader

/-- Read a whole pattern. -/
def readTree (pattern : List Char) : Except Failure Tree := do
  let r ← (Reader.ofPattern pattern).run pattern.length
  r.finish

end Scratchpad.Pattern
