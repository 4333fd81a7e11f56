import Scratchpad.Pattern.Escape

/-!
# Sets in brackets

A set in brackets lists characters, ranges, classes and further sets in brackets, and combines the
list so far with what follows by `&&`, `--` or `~~`, from the left.  Brackets that are open and
operators that wait for their right side form a stack.

* `SetFrame` — an entry of the stack.
* `BracketReader` — the state of the reader between two items.
* `BracketReader.step` — read one item, operator or bracket.
* `readBrackets` — a whole set, on whose opening bracket the cursor stands.
-/

namespace Scratchpad.Pattern

/-- The items of a list that is being read, the last one first, and where the list begins. -/
structure ItemList where
  span : Span
  items : List SetSyntax
  deriving Repr

namespace ItemList

/-- An empty list at a place. -/
def startAt (p : Position) : ItemList := ⟨.point p, []⟩

/-- The list with one more item. -/
def push (l : ItemList) (item : SetSyntax) : ItemList :=
  ⟨⟨if l.items.isEmpty then item.span.start else l.span.start, item.span.stop⟩, item :: l.items⟩

/-- The list as a set: one item stands for itself. -/
def toSet (l : ItemList) : SetSyntax :=
  match l.items with
  | [] => .empty l.span
  | [item] => item
  | items => .union l.span items.reverse

end ItemList

/-- What waits while a set is being read: the list around an open bracket, or the left side of
an operator. -/
inductive SetFrame where
  | bracket (outer : ItemList) (span : Span) (negated : Bool)
  | operand (op : SetOp) (left : SetSyntax)
  deriving Repr

/-- A reader of sets between two items. -/
structure BracketReader where
  cursor : Cursor
  frames : List SetFrame
  current : ItemList
  deriving Repr

/-- The classes by the names they have inside brackets. -/
def asciiClassNames : List (String × AsciiClass) :=
  [("alnum", .alnum), ("alpha", .alpha), ("ascii", .ascii), ("blank", .blank), ("cntrl", .cntrl),
    ("digit", .digit), ("graph", .graph), ("lower", .lower), ("print", .print), ("punct", .punct),
    ("space", .space), ("upper", .upper), ("word", .word), ("xdigit", .xdigit)]

/-- Read a class such as `[:alpha:]`.  What is not exactly of this form is read as a set. -/
def readAsciiClass? (c : Cursor) : Option (SetSyntax × Cursor) := do
  let d ← c.bumpOver? "[:"
  if d.atEnd then none
  let negated := d.rest.head? == some '^'
  let d := if negated then d.bump else d
  if d.atEnd then none
  let (name, d) := d.takeWhile false (· != ':')
  let d ← d.bumpOver? ":]"
  let kind ← asciiClassNames.lookup (.ofList name)
  return (.ascii ⟨c.pos, d.pos⟩ kind negated, d)

/-- The failure of a set that is not closed, which points at the innermost open bracket. -/
def unclosedSet (c : Cursor) : List SetFrame → Failure
  | [] => ⟨c.here, .classUnclosed⟩
  | .bracket _ span _ :: _ => ⟨span, .classUnclosed⟩
  | .operand _ _ :: frames => unclosedSet c frames

/-- Read hyphens at the beginning of a set, which stand for themselves. -/
def readHyphens (extended : Bool) (start : Position) :
    (fuel : Nat) → ItemList → Cursor → Except Failure (ItemList × Cursor)
  | 0, l, c => .ok (l, c)
  | fuel + 1, l, c =>
    if c.rest.head? = some '-' then
      let l := l.push (.literal ⟨c.charSpan, '-', false⟩)
      let c := c.next extended
      if c.atEnd then .error ⟨.point start, .classUnclosed⟩
      else readHyphens extended start fuel l c
    else .ok (l, c)

/-- Read an opening bracket with what belongs to it: the `^` that negates, hyphens, and a closing
bracket that stands for itself because it comes first. -/
def openBracket (extended : Bool) (r : BracketReader) : Except Failure BracketReader := do
  let start := r.cursor.pos
  let unclosed (c : Cursor) : Failure := ⟨⟨start, c.pos⟩, .classUnclosed⟩
  let c := r.cursor.next extended
  if c.atEnd then throw (unclosed c)
  let negated := c.rest.head? == some '^'
  let c := if negated then c.next extended else c
  if c.atEnd then throw (unclosed c)
  let (l, c) ← readHyphens extended start c.rest.length (.startAt c.pos) c
  if l.items.isEmpty && c.rest.head? == some ']' then
    let l := l.push (.literal ⟨c.charSpan, ']', false⟩)
    let c := c.next extended
    if c.atEnd then throw (unclosed c)
    return ⟨c, .bracket r.current ⟨start, c.pos⟩ negated :: r.frames, l⟩
  return ⟨c, .bracket r.current ⟨start, c.pos⟩ negated :: r.frames, l⟩

/-- Give a waiting operator its right side. -/
def applyOperator (frames : List SetFrame) (right : SetSyntax) : SetSyntax × List SetFrame :=
  match frames with
  | .operand op left :: frames =>
    (.binary ⟨left.span.start, right.span.stop⟩ op left right, frames)
  | frames => (right, frames)

/-- Read an operator of two signs. -/
def pushOperator (op : SetOp) (r : BracketReader) : BracketReader :=
  let (left, frames) := applyOperator r.frames r.current.toSet
  let c := r.cursor.bump.bump
  ⟨c, .operand op left :: frames, .startAt c.pos⟩

/-- One item of a set as it was read, before it is known whether a range begins with it. -/
def readSetAtom (extended : Bool) (c : Cursor) : Except Failure (Atom × Cursor) :=
  match c.rest with
  | '\\' :: _ => readEscape extended c
  | ch :: _ => .ok (.literal ⟨c.charSpan, ch, false⟩, c.bump)
  | [] => .error ⟨c.here, .classUnclosed⟩

/-- An atom as an item of a set.  Conditions on a place have no business there. -/
def Atom.toSetItem : Atom → Except Failure SetSyntax
  | .literal lit => .ok (.literal lit)
  | .letterClass span kind negated => .ok (.letterClass span kind negated)
  | .property span query negated => .ok (.property span query negated)
  | a => .error ⟨a.span, .classEscapeInvalid⟩

/-- An atom as an end of a range. -/
def Atom.toLiteral : Atom → Except Failure Literal
  | .literal lit => .ok lit
  | a => .error ⟨a.span, .classRangeLiteral⟩

/-- Read an item or a range.  A hyphen before a closing bracket or before another hyphen makes no
range. -/
def readSetRange (extended : Bool) (r : BracketReader) : Except Failure BracketReader := do
  let (first, c) ← readSetAtom extended r.cursor
  let c := c.skipSpace extended
  if c.atEnd then throw (unclosedSet c r.frames)
  let peeked := c.peekNext? extended
  if c.rest.head? ≠ some '-' || peeked = some ']' || peeked = some '-' then
    let item ← first.toSetItem
    return { r with cursor := c, current := r.current.push item }
  let c := c.next extended
  if c.atEnd then throw (unclosedSet c r.frames)
  let (last, c) ← readSetAtom extended c
  let span : Span := ⟨first.span.start, last.span.stop⟩
  let lo ← first.toLiteral
  let hi ← last.toLiteral
  if hi.char < lo.char then throw ⟨span, .classRangeInvalid⟩
  return { r with cursor := c, current := r.current.push (.range span lo hi) }

/-- Close the innermost bracket: the set is complete if no bracket is open around it. -/
def closeBracket (r : BracketReader) : BracketReader ⊕ (Tree × Cursor) :=
  let (inner, frames) := applyOperator r.frames r.current.toSet
  let c := r.cursor.bump
  match frames with
  | .bracket outer span negated :: frames =>
    let span : Span := ⟨span.start, c.pos⟩
    if frames.isEmpty then .inr (.brackets span negated inner, c)
    else .inl ⟨c, frames, outer.push (.bracketed span negated inner)⟩
  | _ => .inr (.brackets ⟨c.pos, c.pos⟩ false inner, c)

/-- Read one item, operator or bracket. -/
def BracketReader.step (extended : Bool) (r : BracketReader) :
    Except Failure (BracketReader ⊕ (Tree × Cursor)) :=
  let c := r.cursor.skipSpace extended
  let r := { r with cursor := c }
  match c.rest with
  | [] => .error (unclosedSet c r.frames)
  | '[' :: _ =>
    match readAsciiClass? c with
    | some (item, c) => .ok (.inl { r with cursor := c, current := r.current.push item })
    | none => .inl <$> openBracket extended r
  | ']' :: _ => .ok (closeBracket r)
  | '&' :: '&' :: _ => .ok (.inl (pushOperator .inter r))
  | '-' :: '-' :: _ => .ok (.inl (pushOperator .diff r))
  | '~' :: '~' :: _ => .ok (.inl (pushOperator .symmDiff r))
  | _ => .inl <$> readSetRange extended r

/-- Read on until the outermost bracket is closed.  Every step takes at least one character. -/
def BracketReader.run (extended : Bool) :
    (fuel : Nat) → BracketReader → Except Failure (Tree × Cursor)
  | 0, r => .error (unclosedSet r.cursor r.frames)
  | fuel + 1, r =>
    match r.step extended with
    | .error e => .error e
    | .ok (.inr done) => .ok done
    | .ok (.inl r) => r.run extended fuel

/-- Read a set in brackets, on whose opening bracket the cursor stands. -/
def readBrackets (extended : Bool) (c : Cursor) : Except Failure (Tree × Cursor) :=
  match openBracket extended ⟨c, [], .startAt c.pos⟩ with
  | .error e => .error e
  | .ok r => r.run extended (c.rest.length + 1)

end Scratchpad.Pattern
