import Scratchpad.Pattern.Expr
import Scratchpad.Unicode.Utf8Ranges

/-!
# The size of a pattern

A pattern is refused if the automaton that it describes would take too much memory.  The automaton
reads bytes: it has states for the bytes of every character set, for every way to go on, and for
both ends of every group, and counted repetitions hold as many copies as they count.  The memory is
estimated from the expression alone, without building the automaton.

* `setFootprint` — the memory for a set of characters.
* `Expr.footprint` — an estimate of the memory for an expression, which leaves out what the branches
  of an alternation can share.
* `maxFootprint` — how much is allowed.
-/

namespace Scratchpad.Pattern

open Unicode (CharSet)

/-- The largest automaton that is accepted, in bytes. -/
def maxFootprint : Nat := 10485760

/-- The memory for one state. -/
def stateSize : Nat := 32

/-- The memory for a state from which one of `ways` states can be reached without reading. -/
def choiceSize (ways : Nat) : Nat := stateSize + 4 * ways

/-- The number of ranges in which a sequence differs from the one before it. -/
def newRanges : (before sequence : List (Nat × Nat)) → Nat
  | b :: bs, r :: rs => if b = r then newRanges bs rs else rs.length + 1
  | _, rs => rs.length

/-- The number of states for sequences of byte ranges, which share their beginnings. -/
def sharedStates (before : List (Nat × Nat)) : List (List (Nat × Nat)) → Nat
  | [] => 0
  | s :: rest => newRanges before s + sharedStates s rest

/-- The memory for a set of characters.  A single character takes a state for each byte, ASCII
sets one state with a transition for each range. -/
def setFootprint (set : CharSet) : Nat :=
  match set.ranges with
  | [] => stateSize
  | [(lo, hi)] =>
    if lo = hi then stateSize * (Unicode.encode lo).length
    else if hi ≤ 0x7F then 2 * stateSize
    else wide
  | ranges => if set.isAscii then 2 * stateSize + 8 * ranges.length else wide
where
  wide : Nat :=
    let sequences := set.byteSequences
    choiceSize sequences.length + stateSize + stateSize * sharedStates [] sequences

namespace Expr

/-- An estimate of the memory for an expression.  Every branch of an alternation is counted by
itself, also where the branches are literal texts, for which an automaton can share the states of
their common beginnings. -/
def footprint : Expr → Nat
  | .empty | .look _ => stateSize
  | .chars set => setFootprint set
  | .capture _ _ e => e.footprint + 2 * stateSize
  | .concat a b => a.footprint + b.footprint
  | .alternation a b => a.footprint + b.footprint + choiceSize 2 + stateSize
  | .repetition least most _ e =>
    match most with
    | some most =>
      least * e.footprint +
        (if least < most then stateSize + (most - least) * (e.footprint + choiceSize 2) else 0)
    | none =>
      max least 1 * e.footprint +
        if least = 0 && !e.takesSomething then 2 * choiceSize 2 + stateSize else choiceSize 2

/-- Whether the automaton of the expression is too large. -/
def tooLarge (e : Expr) : Bool := maxFootprint < e.footprint

end Expr

end Scratchpad.Pattern
