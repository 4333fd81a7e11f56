import Scratchpad.Pattern.Span

/-!
# The syntax of patterns

A pattern as it is written, before its flags are applied.  Every node keeps its span.

* `Atom` — what stands for one character, or for a place between two.
* `SetSyntax` — what stands between brackets.
* `Flag`, `FlagItem` — the flags of a group or of the rest of one.
* `Tree` — whole patterns.
-/

namespace Scratchpad.Pattern

/-- A character that stands for itself.  `isByte` marks the form `\x` with two digits, which
stands for a byte where a pattern is not read as Unicode. -/
structure Literal where
  span : Span
  char : Char
  isByte : Bool := false
  deriving DecidableEq, Repr

/-- The classes with a letter of their own: `\d`, `\s` and `\w`. -/
inductive LetterClass where
  | digit
  | space
  | word
  deriving DecidableEq, Repr

/-- The classes that are named inside brackets, as in `[[:alpha:]]`. -/
inductive AsciiClass where
  | alnum
  | alpha
  | ascii
  | blank
  | cntrl
  | digit
  | graph
  | lower
  | print
  | punct
  | space
  | upper
  | word
  | xdigit
  deriving DecidableEq, Repr

/-- A character property: a name by itself, or a property with one of its values. -/
inductive PropertyQuery where
  | named (name : String)
  | valued (property value : String)
  deriving DecidableEq, Repr

/-- Conditions on a place between two characters. -/
inductive Assertion where
  | lineStart
  | lineEnd
  | textStart
  | textEnd
  | wordBoundary
  | notWordBoundary
  | wordStart
  | wordEnd
  | wordStartHalf
  | wordEndHalf
  deriving DecidableEq, Repr

/-- The parts of a pattern that contain no others. -/
inductive Atom where
  | literal (lit : Literal)
  | dot (span : Span)
  | assertion (span : Span) (kind : Assertion)
  | letterClass (span : Span) (kind : LetterClass) (negated : Bool)
  | property (span : Span) (query : PropertyQuery) (negated : Bool)
  deriving DecidableEq, Repr

def Atom.span : Atom → Span
  | .literal lit => lit.span
  | .dot span | .assertion span _ | .letterClass span _ _ | .property span _ _ => span

/-- How two sets are combined inside brackets: `&&`, `--` and `~~`. -/
inductive SetOp where
  | inter
  | diff
  | symmDiff
  deriving DecidableEq, Repr

/-- What stands between brackets. -/
inductive SetSyntax where
  | empty (span : Span)
  | literal (lit : Literal)
  | range (span : Span) (first last : Literal)
  | ascii (span : Span) (kind : AsciiClass) (negated : Bool)
  | letterClass (span : Span) (kind : LetterClass) (negated : Bool)
  | property (span : Span) (query : PropertyQuery) (negated : Bool)
  | bracketed (span : Span) (negated : Bool) (inner : SetSyntax)
  | union (span : Span) (items : List SetSyntax)
  | binary (span : Span) (op : SetOp) (left right : SetSyntax)
  deriving Repr

def SetSyntax.span : SetSyntax → Span
  | .literal lit => lit.span
  | .empty span | .range span _ _ | .ascii span _ _ | .letterClass span _ _ | .property span _ _
  | .bracketed span _ _ | .union span _ | .binary span _ _ _ => span

/-- The flags that a pattern can set for itself. -/
inductive Flag where
  | ignoreCase
  | multiLine
  | dotAll
  | swapGreed
  | unicode
  | crlf
  | extended
  deriving DecidableEq, Repr

/-- One sign between `(?` and the end of the flags: a flag, or the `-` that turns off those
behind it. -/
structure FlagItem where
  span : Span
  flag : Option Flag
  deriving DecidableEq, Repr

/-- Whether the flags turn the given one on or off, if they say anything about it. -/
def flagState? (flag : Flag) : List FlagItem → Option Bool
  | [] => none
  | item :: rest =>
    if item.flag = some flag then some true
    else if item.flag = none then
      if rest.any (·.flag == some flag) then some false else none
    else flagState? flag rest

/-- What a pair of parentheses does. -/
inductive GroupKind where
  | capture (index : Nat) (name : Option String)
  | flagged (items : List FlagItem)
  deriving DecidableEq, Repr

/-- A whole pattern as it is written. -/
inductive Tree where
  | empty (span : Span)
  | flags (span : Span) (items : List FlagItem)
  | atom (a : Atom)
  | brackets (span : Span) (negated : Bool) (inner : SetSyntax)
  | repetition (span : Span) (least : Nat) (most : Option Nat) (greedy : Bool) (inner : Tree)
  | group (span : Span) (kind : GroupKind) (inner : Tree)
  | alternation (span : Span) (branches : List Tree)
  | concat (span : Span) (items : List Tree)
  deriving Repr

def Tree.span : Tree → Span
  | .atom a => a.span
  | .empty span | .flags span _ | .brackets span _ _ | .repetition span _ _ _ _ | .group span _ _
  | .alternation span _ | .concat span _ => span

end Scratchpad.Pattern
