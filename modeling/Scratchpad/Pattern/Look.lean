import Scratchpad.Unicode.Word

/-!
# Conditions on a place

A place in a text lies between two characters, either of which may be missing at an end of the
text.  A condition looks at these two and takes no character.

* `Look` — the conditions.
* `Look.holds` — whether one holds between two characters.
-/

namespace Scratchpad.Pattern

/-- How a place may lie with respect to words. -/
inductive WordEdge where
  | boundary
  | notBoundary
  | start
  | stop
  | startHalf
  | stopHalf
  deriving DecidableEq, Repr

/-- Conditions on a place.  With `crlf` a carriage return ends a line too, and no line begins or
ends between it and a line feed. -/
inductive Look where
  | textStart
  | textEnd
  | lineStart (crlf : Bool)
  | lineEnd (crlf : Bool)
  | word (asciiOnly : Bool) (edge : WordEdge)
  deriving DecidableEq, Repr

/-- Whether a word goes on over a character.  The ends of the text belong to no word. -/
def inWord (asciiOnly : Bool) : Option Char → Bool
  | none => false
  | some c => if asciiOnly then c.isAlphanum || c == '_' else Unicode.isWordChar c

/-- Whether the place lies so between a word, or none, before it and a word, or none, behind it. -/
def WordEdge.holds (before behind : Bool) : WordEdge → Bool
  | .boundary => before != behind
  | .notBoundary => before == behind
  | .start => !before && behind
  | .stop => before && !behind
  | .startHalf => !before
  | .stopHalf => !behind

/-- Whether the condition holds between two characters. -/
def Look.holds (before behind : Option Char) : Look → Bool
  | .textStart => before.isNone
  | .textEnd => behind.isNone
  | .lineStart false => before.isNone || before == some '\n'
  | .lineEnd false => behind.isNone || behind == some '\n'
  | .lineStart true =>
    before.isNone || before == some '\n' || (before == some '\r' && behind != some '\n')
  | .lineEnd true =>
    behind.isNone || behind == some '\r' || (behind == some '\n' && before != some '\r')
  | .word asciiOnly edge => edge.holds (inWord asciiOnly before) (inWord asciiOnly behind)

end Scratchpad.Pattern
