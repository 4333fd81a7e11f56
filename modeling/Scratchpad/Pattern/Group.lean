import Scratchpad.Pattern.Cursor
import Scratchpad.Pattern.Syntax
import Scratchpad.Unicode.Addition
import Scratchpad.Unicode.Category
import Scratchpad.Unicode.Trait

/-!
# Opening a group

What may follow an opening parenthesis: the name of a capturing group, flags for the group or for
the rest of the one around it, or nothing.

* `readFlags` — flags up to the sign that ends them.
* `readName` — the name of a group.
* `readOpening` — everything up to the contents of the group.
-/

namespace Scratchpad.Pattern

/-- The flags by their letters. -/
def flagLetters : List (Char × Flag) :=
  [('i', .ignoreCase), ('m', .multiLine), ('s', .dotAll), ('U', .swapGreed), ('u', .unicode),
    ('R', .crlf), ('x', .extended)]

/-- Read flags up to `:` or `)`.  No flag and no negation may come twice, and a negation must
have flags behind it.  The items read so far come last one first. -/
def readFlags (items : List FlagItem) :
    List Char → Position → Except Failure (List FlagItem × Cursor)
  | [], p => .error ⟨.point p, .flagUnfinished⟩
  | c :: cs, p =>
    let span : Span := ⟨p, p.after c⟩
    if c = ':' || c = ')' then
      match items with
      | ⟨s, none⟩ :: _ => .error ⟨s, .flagDanglingNegation⟩
      | _ => .ok (items.reverse, ⟨c :: cs, p⟩)
    else if c = '-' then
      match items.find? (·.flag.isNone) with
      | some earlier => .error ⟨span, .flagRepeatedNegation earlier.span⟩
      | none => readFlags (⟨span, none⟩ :: items) cs (p.after c)
    else match flagLetters.lookup c with
      | none => .error ⟨span, .flagUnknown⟩
      | some flag =>
        match items.find? (·.flag == some flag) with
        | some earlier => .error ⟨span, .flagDuplicate earlier.span⟩
        | none => readFlags (⟨span, some flag⟩ :: items) cs (p.after c)

/-- The characters with which the name of a group may begin, apart from the underscore. -/
def alphabetic : Unicode.CharSet :=
  Unicode.alphabeticAdditions.union
    ((Unicode.findRuns? "alphabetic" Unicode.traitRuns).elim .empty .ofRuns)

/-- The characters of category number. -/
def numeric : Unicode.CharSet :=
  match Unicode.category? "n" with
  | some (some s) => s.union Unicode.numberAdditions
  | _ => .empty

/-- Whether a character may stand in the name of a group. -/
def isNameChar (first : Bool) (c : Char) : Bool :=
  c == '_' || alphabetic.contains c ||
    (!first && (c == '.' || c == '[' || c == ']' || numeric.contains c))

/-- Read the characters of a name up to `>`. -/
def readNameChars (first : Bool) :
    List Char → Position → Except Failure (List Char × Cursor)
  | [], p => .error ⟨.point p, .groupNameUnfinished⟩
  | c :: cs, p =>
    if c = '>' then .ok ([], ⟨c :: cs, p⟩)
    else if isNameChar first c then
      match readNameChars false cs (p.after c) with
      | .ok (name, cursor) => .ok (c :: name, cursor)
      | .error e => .error e
    else .error ⟨⟨p, p.after c⟩, .groupNameInvalid⟩

/-- Read the name of a group, which must differ from the names before. -/
def readName (names : List (String × Span)) (c : Cursor) :
    Except Failure (String × Span × Cursor) :=
  match readNameChars true c.rest c.pos with
  | .error e => .error e
  | .ok (name, d) =>
    let span : Span := ⟨c.pos, d.pos⟩
    let name : String := .ofList name
    if name.isEmpty then .error ⟨.point c.pos, .groupNameEmpty⟩
    else match names.lookup name with
      | some earlier => .error ⟨span, .groupNameDuplicate earlier⟩
      | none => .ok (name, span, d.bump)

/-- What an opening parenthesis begins. -/
inductive Opening where
  | capture (name : Option (String × Span))
  | flagged (items : List FlagItem)
  | directive (items : List FlagItem)
  deriving Repr

/-- The signs of look-around, which is not supported. -/
def lookAroundSigns : List String := ["?=", "?!", "?<=", "?<!"]

/-- Read everything up to the contents of a group, on whose parenthesis the cursor stands. -/
def readOpening (extended : Bool) (names : List (String × Span)) (c : Cursor) :
    Except Failure (Opening × Cursor) :=
  let paren := c.charSpan
  let c := c.next extended
  match lookAroundSigns.findSome? c.bumpOver? with
  | some d => .error ⟨⟨paren.start, d.pos⟩, .lookAround⟩
  | none =>
    match ["?P<", "?<"].findSome? c.bumpOver? with
    | some d => do
      let (name, span, d) ← readName names d
      return (.capture (some (name, span)), d)
    | none =>
      match c.bumpOver? "?" with
      | none => .ok (.capture none, c)
      | some d => do
        if d.atEnd then throw ⟨paren, .groupUnclosed⟩
        let (items, d) ← readFlags [] d.rest d.pos
        if d.rest.head? == some ')' then
          if items.isEmpty then throw ⟨c.here, .nothingToRepeat⟩
          return (.directive items, d.bump)
        return (.flagged items, d.bump)

end Scratchpad.Pattern
