import Scratchpad.Pattern.Expr
import Scratchpad.Pattern.Cause
import Scratchpad.Pattern.Syntax
import Scratchpad.Unicode.Blank
import Scratchpad.Unicode.CaseFold
import Scratchpad.Unicode.Property

/-!
# The meaning of a pattern

A tree becomes an expression once the flags are known.  Flags hold from where they are set to the
end of the group around them, over the branches of an alternation too.  Where Unicode is turned
off, classes and sets are ASCII ones, and whatever could match a part of a character is refused.

* `Settings` — the flags in force.
* `setOf` — the characters of a set in brackets.
* `Atom.toExpr` — the meaning of an atom.
* `Tree.toExpr` — the meaning of a tree.
-/

namespace Scratchpad.Pattern

open Unicode (CharSet)

/-- The flags in force at a place of a pattern. -/
structure Settings where
  ignoreCase : Bool := false
  multiLine : Bool := false
  dotAll : Bool := false
  swapGreed : Bool := false
  unicode : Bool := true
  crlf : Bool := false
  deriving DecidableEq, Repr

namespace Settings

/-- Turn one flag on or off.  White space in the pattern means nothing any more. -/
def set (s : Settings) (on : Bool) : Flag → Settings
  | .ignoreCase => { s with ignoreCase := on }
  | .multiLine => { s with multiLine := on }
  | .dotAll => { s with dotAll := on }
  | .swapGreed => { s with swapGreed := on }
  | .unicode => { s with unicode := on }
  | .crlf => { s with crlf := on }
  | .extended => s

/-- Apply flag items from the left: those behind a negation are turned off. -/
def apply (s : Settings) (on : Bool) : List FlagItem → Settings
  | [] => s
  | ⟨_, some flag⟩ :: items => (s.set on flag).apply on items
  | ⟨_, none⟩ :: items => s.apply false items

end Settings

/-! ## Sets of characters -/

/-- The bytes outside of a set of bytes. -/
def byteComplement (s : CharSet) : CharSet := s.complement.inter (.ofRange 0 0xFF)

/-- The ranges of a class that is named inside brackets. -/
def AsciiClass.ranges : AsciiClass → List (Nat × Nat)
  | alnum => [(0x30, 0x39), (0x41, 0x5A), (0x61, 0x7A)]
  | alpha => [(0x41, 0x5A), (0x61, 0x7A)]
  | ascii => [(0x00, 0x7F)]
  | blank => [(0x09, 0x09), (0x20, 0x20)]
  | cntrl => [(0x00, 0x1F), (0x7F, 0x7F)]
  | digit => [(0x30, 0x39)]
  | graph => [(0x21, 0x7E)]
  | lower => [(0x61, 0x7A)]
  | print => [(0x20, 0x7E)]
  | punct => [(0x21, 0x2F), (0x3A, 0x40), (0x5B, 0x60), (0x7B, 0x7E)]
  | space => [(0x09, 0x0D), (0x20, 0x20)]
  | upper => [(0x41, 0x5A)]
  | word => [(0x30, 0x39), (0x41, 0x5A), (0x5F, 0x5F), (0x61, 0x7A)]
  | xdigit => [(0x30, 0x39), (0x41, 0x46), (0x61, 0x66)]

/-- The ASCII letters of a set in both cases. -/
def closeUnderAsciiCase (s : CharSet) : CharSet :=
  let letters (lo hi : Nat) : List (Nat × Nat) := (s.inter (.ofRange lo hi)).ranges
  (s.union (.ofRanges ((letters 0x41 0x5A).map fun r => (r.1 + 32, r.2 + 32)))).union
    (.ofRanges ((letters 0x61 0x7A).map fun r => (r.1 - 32, r.2 - 32)))

/-- A set as the flags want it: without regard to case, if case does not count. -/
def Settings.fold (s : Settings) (set : CharSet) : CharSet :=
  if s.ignoreCase then
    if s.unicode then set.closeUnderCase else closeUnderAsciiCase set
  else set

/-- A set as the flags want it, negated if so written.  Case is closed under before the set is
negated.  Without Unicode no set may hold a byte beyond ASCII. -/
def Settings.finishSet (s : Settings) (span : Span) (negated : Bool) (set : CharSet) :
    Except Failure CharSet :=
  let set := s.fold set
  if s.unicode then .ok (if negated then set.complement else set)
  else
    let set := if negated then byteComplement set else set
    if set.isAscii then .ok set else .error ⟨span, .invalidUtf8⟩

/-- The characters of `\d`, `\s` or `\w`. -/
def LetterClass.set (unicode : Bool) : LetterClass → CharSet
  | digit => if unicode then Unicode.decimalDigits else .ofRanges AsciiClass.digit.ranges
  | space => if unicode then Unicode.blanks else .ofRanges AsciiClass.space.ranges
  | word => if unicode then Unicode.wordChars else .ofRanges AsciiClass.word.ranges

/-- The characters of a class with a letter of its own.  These classes ignore case already. -/
def letterClassSet (s : Settings) (span : Span) (kind : LetterClass) (negated : Bool) :
    Except Failure CharSet :=
  let set := kind.set s.unicode
  if !negated then .ok set
  else if s.unicode then .ok set.complement
  else .error ⟨span, .invalidUtf8⟩

/-- The characters with a property. -/
def propertySet (s : Settings) (span : Span) (query : PropertyQuery) (negated : Bool) :
    Except Failure CharSet :=
  if !s.unicode then .error ⟨span, .unicodeNotAllowed⟩
  else
    let found := match query with
      | .named name => Unicode.namedSet name
      | .valued property value => Unicode.valuedSet property value
    match found with
    | .ok set => s.finishSet span negated set
    | .error .unknownProperty => .error ⟨span, .unknownProperty⟩
    | .error .unknownValue => .error ⟨span, .unknownPropertyValue⟩

/-- A literal as an end of a range or a member of a set.  Without Unicode it must be ASCII. -/
def literalCode (s : Settings) (lit : Literal) : Except Failure Nat :=
  if s.unicode || lit.char.toNat ≤ 0x7F then .ok lit.char.toNat
  else if lit.isByte then .error ⟨lit.span, .invalidUtf8⟩
  else .error ⟨lit.span, .unicodeNotAllowed⟩

/-- Two sets combined. -/
def SetOp.apply : SetOp → CharSet → CharSet → CharSet
  | inter => CharSet.inter
  | diff => CharSet.diff
  | symmDiff => CharSet.symmDiff

mutual

/-- The characters of a set in brackets, before the outermost brackets negate it. -/
def setOf (s : Settings) : SetSyntax → Except Failure CharSet
  | .empty _ => .ok .empty
  | .literal lit => do
    let n ← literalCode s lit
    return .ofRange n n
  | .range _ first last => do
    let lo ← literalCode s first
    let hi ← literalCode s last
    return .ofRange lo hi
  | .ascii span kind negated => s.finishSet span negated (.ofRanges kind.ranges)
  | .letterClass span kind negated => letterClassSet s span kind negated
  | .property span query negated => propertySet s span query negated
  | .bracketed span negated inner => do
    let set ← setOf s inner
    s.finishSet span negated set
  | .union _ items => unionOf s items
  | .binary _ op left right => do
    let l ← setOf s left
    let r ← setOf s right
    return op.apply (s.fold l) (s.fold r)

/-- The characters of all items of a list. -/
def unionOf (s : Settings) : List SetSyntax → Except Failure CharSet
  | [] => .ok .empty
  | item :: items => do
    let set ← setOf s item
    let rest ← unionOf s items
    return set.union rest

end

/-! ## Expressions -/

/-- A condition on a place as the flags want it. -/
def Assertion.toLook (s : Settings) : Assertion → Look
  | textStart => .textStart
  | textEnd => .textEnd
  | lineStart => if s.multiLine then .lineStart s.crlf else .textStart
  | lineEnd => if s.multiLine then .lineEnd s.crlf else .textEnd
  | wordBoundary => .word (!s.unicode) .boundary
  | notWordBoundary => .word (!s.unicode) .notBoundary
  | wordStart => .word (!s.unicode) .start
  | wordEnd => .word (!s.unicode) .stop
  | wordStartHalf => .word (!s.unicode) .startHalf
  | wordEndHalf => .word (!s.unicode) .stopHalf

/-- What the dot stands for. -/
def Settings.dotSet (s : Settings) : CharSet :=
  if s.dotAll then .full
  else if s.crlf then (CharSet.ofRanges [(0x0A, 0x0A), (0x0D, 0x0D)]).complement
  else (CharSet.single '\n').complement

/-- The meaning of an atom. -/
def Atom.toExpr (s : Settings) : Atom → Except Failure Expr
  | .literal lit =>
    if !s.unicode && lit.isByte && 0x7F < lit.char.toNat then .error ⟨lit.span, .invalidUtf8⟩
    else .ok (.chars (s.fold (.single lit.char)))
  | .dot span => if s.unicode then .ok (.chars s.dotSet) else .error ⟨span, .invalidUtf8⟩
  | .assertion _ kind => .ok (.look (kind.toLook s))
  | .letterClass span kind negated => .chars <$> letterClassSet s span kind negated
  | .property span query negated => .chars <$> propertySet s span query negated

/-- The flags in force inside a group. -/
def GroupKind.settings (s : Settings) : GroupKind → Settings
  | capture _ _ => s
  | flagged items => s.apply true items

/-- The meaning of a group whose contents mean `e`. -/
def GroupKind.wrap (e : Expr) : GroupKind → Expr
  | capture index name => .capture index name e
  | flagged _ => e

mutual

/-- The meaning of a tree, and the flags in force behind it. -/
def Tree.toExpr (s : Settings) : Tree → Except Failure (Expr × Settings)
  | .empty _ => .ok (.empty, s)
  | .flags _ items => .ok (.empty, s.apply true items)
  | .atom a => do
    let e ← a.toExpr s
    return (e, s)
  | .brackets span negated inner => do
    let set ← setOf s inner
    let set ← s.finishSet span negated set
    return (.chars set, s)
  | .repetition _ least most greedy inner => do
    let (e, s) ← inner.toExpr s
    return (.repeated least most (greedy != s.swapGreed) e, s)
  | .group _ kind inner => do
    let (e, _) ← inner.toExpr (kind.settings s)
    return (kind.wrap e, s)
  | .alternation _ branches => do
    let (es, s) ← exprsOf s branches
    return (.oneOf es, s)
  | .concat _ items => do
    let (es, s) ← exprsOf s items
    return (.ofList es, s)

/-- The meanings of the trees of a list, each with the flags that the one before it leaves. -/
def exprsOf (s : Settings) : List Tree → Except Failure (List Expr × Settings)
  | [] => .ok ([], s)
  | t :: ts => do
    let (e, s) ← t.toExpr s
    let (es, s) ← exprsOf s ts
    return (e :: es, s)

end

end Scratchpad.Pattern
