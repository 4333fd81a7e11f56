/-!
# Places in a pattern

Every part of a pattern keeps the place where it was read, so that an error can point at it.

* `Position` — a place: how many bytes come before it, its line and its column.
* `Span` — what lies between two places.
-/

namespace Scratchpad.Pattern

/-- A place in a pattern.  Lines and columns count from 1, and columns count characters. -/
structure Position where
  offset : Nat
  line : Nat
  column : Nat
  deriving DecidableEq, Repr, Inhabited

namespace Position

/-- The place before the first character. -/
def first : Position := ⟨0, 1, 1⟩

/-- The place behind a character that stands at this place. -/
def after (p : Position) (c : Char) : Position :=
  if c = '\n' then ⟨p.offset + c.utf8Size, p.line + 1, 1⟩
  else ⟨p.offset + c.utf8Size, p.line, p.column + 1⟩

end Position

/-- The part of a pattern between two places. -/
structure Span where
  start : Position
  stop : Position
  deriving DecidableEq, Repr, Inhabited

namespace Span

/-- The empty part at a place. -/
def point (p : Position) : Span := ⟨p, p⟩

/-- Whether the part begins and ends on the same line. -/
def isOneLine (s : Span) : Bool := s.start.line == s.stop.line

/-- Whether one part stands before another: by its beginning, then by its end. -/
def before (s t : Span) : Bool :=
  s.start.offset < t.start.offset ||
    (s.start.offset == t.start.offset && s.stop.offset ≤ t.stop.offset)

end Span

end Scratchpad.Pattern
