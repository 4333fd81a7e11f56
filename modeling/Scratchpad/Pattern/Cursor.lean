import Scratchpad.Pattern.Cause
import Scratchpad.Unicode.Blank

/-!
# Walking through a pattern

A reader of patterns holds a cursor: what is left to read and where that begins.  In an extended
pattern white space and comments between the signs are skipped, so most steps take the word
whether the pattern is extended.

* `Cursor.bump` — step over one character.
* `Cursor.next` — the same, and over the space behind it.
* `Cursor.takeWhile` — the longest run of characters of a kind, stepped over in that way.
* `Cursor.peekNext?` — the character behind the current one.
-/

namespace Scratchpad.Pattern

/-- What is left of a pattern, and the place where it begins. -/
structure Cursor where
  rest : List Char
  pos : Position
  deriving DecidableEq, Repr

/-- Skip white space and comments, which run from `#` to the end of the line. -/
def skipBlanks (inComment : Bool) : List Char → Position → Cursor
  | [], p => ⟨[], p⟩
  | c :: cs, p =>
    if inComment then skipBlanks (c != '\n') cs (p.after c)
    else if Unicode.isBlank c then skipBlanks false cs (p.after c)
    else if c = '#' then skipBlanks true cs (p.after c)
    else ⟨c :: cs, p⟩

namespace Cursor

/-- The beginning of a pattern. -/
def ofPattern (pattern : List Char) : Cursor := ⟨pattern, .first⟩

/-- Whether nothing is left. -/
def atEnd (c : Cursor) : Bool := c.rest.isEmpty

/-- The empty span at the cursor. -/
def here (c : Cursor) : Span := .point c.pos

/-- The span of the character at the cursor. -/
def charSpan (c : Cursor) : Span :=
  match c.rest with
  | [] => c.here
  | ch :: _ => ⟨c.pos, c.pos.after ch⟩

/-- Step over one character. -/
def bump (c : Cursor) : Cursor :=
  match c.rest with
  | [] => c
  | ch :: rest => ⟨rest, c.pos.after ch⟩

/-- In an extended pattern, step over white space and comments. -/
def skipSpace (extended : Bool) (c : Cursor) : Cursor :=
  if extended then skipBlanks false c.rest c.pos else c

/-- Step over one character and the space behind it. -/
def next (extended : Bool) (c : Cursor) : Cursor := c.bump.skipSpace extended

/-- Step over a given text, if it comes next. -/
def bumpOver? (text : String) (c : Cursor) : Option Cursor :=
  if text.toList.isPrefixOf c.rest then some (text.toList.foldl (fun c _ => c.bump) c) else none

/-- The longest run of characters of a kind, and the cursor behind it.  At most `fuel` characters
are taken. -/
def takeUpTo (extended : Bool) (p : Char → Bool) : (fuel : Nat) → Cursor → List Char × Cursor
  | 0, c => ([], c)
  | fuel + 1, c =>
    match c.rest with
    | [] => ([], c)
    | ch :: _ =>
      if p ch then
        let more := takeUpTo extended p fuel (c.next extended)
        (ch :: more.1, more.2)
      else ([], c)

/-- The longest run of characters of a kind, and the cursor behind it. -/
def takeWhile (extended : Bool) (p : Char → Bool) (c : Cursor) : List Char × Cursor :=
  takeUpTo extended p c.rest.length c

/-- The character behind the current one.  In an extended pattern white space between the two is
skipped, but of a comment only its `#` and the white space behind that; where only white space is
left, the character directly behind the current one counts. -/
def peekNext? (extended : Bool) (c : Cursor) : Option Char :=
  let behind := c.rest.tail
  if extended then ((pastSpace false behind).getD behind).head? else behind.head?
where
  pastSpace (seenHash : Bool) : List Char → Option (List Char)
    | [] => none
    | ch :: rest =>
      if Unicode.isBlank ch then pastSpace seenHash rest
      else if ch = '#' && !seenHash then pastSpace true rest
      else some (ch :: rest)

end Cursor

end Scratchpad.Pattern
