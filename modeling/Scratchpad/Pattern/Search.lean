import Scratchpad.Pattern.Program

/-!
# Searching

A search tries the places of a text from the left.  From one place the ways through the program
are tried in the order of the program's choices, and the first that is accepted is the match.  A
thread that comes to an address and a place where an earlier one has been is given up: the earlier
one either has failed there, or is still on its way around a loop, and has the right of way.

* `Thread` — a way through the program so far.
* `Thread.successors` — how it can go on.
* `explore` — the first accepted way among threads.
* `Match` — what was found.
* `searchFrom` — the leftmost match from a place on.
-/

namespace Scratchpad.Pattern

/-- A way through a program that has come to an address and to a place of the text.  The marks
passed are kept, the last one first. -/
structure Thread where
  address : Nat
  place : Nat
  marks : List (Nat × Nat)
  deriving DecidableEq, Repr

/-- The points that threads have come to, one bit for each. -/
structure Visited where
  words : Array Nat

namespace Visited

/-- The number of points in one word. -/
def wordSize : Nat := 32

/-- No point out of `n` yet. -/
def none (n : Nat) : Visited := ⟨Array.replicate (n / wordSize + 1) 0⟩

def contains (v : Visited) (point : Nat) : Bool :=
  (v.words[point / wordSize]?.getD 0).testBit (point % wordSize)

def insert (v : Visited) (point : Nat) : Visited :=
  ⟨v.words.modify (point / wordSize) (· ||| (1 <<< (point % wordSize)))⟩

end Visited

/-- The character before a place. -/
def before? (text : Array Char) (place : Nat) : Option Char :=
  match place with
  | 0 => none
  | n + 1 => text[n]?

namespace Thread

/-- The point of the thread, among the points from the place `origin` on. -/
def point (size origin : Nat) (t : Thread) : Nat := (t.place - origin) * size + t.address

/-- How the thread can go on, the first way first: `none` if it is accepted. -/
def successors (program : Array Instr) (text : Array Char) (t : Thread) : Option (List Thread) :=
  match program[t.address]? with
  | some (.chars set) =>
    match text[t.place]? with
    | some c => some (if set.contains c then [⟨t.address + 1, t.place + 1, t.marks⟩] else [])
    | none => some []
  | some (.look l) =>
    some (if l.holds (before? text t.place) text[t.place]? then
      [{ t with address := t.address + 1 }] else [])
  | some (.split first second) => some [{ t with address := first }, { t with address := second }]
  | some (.jump target) => some [{ t with address := target }]
  | some (.mark slot) => some [⟨t.address + 1, t.place, (slot, t.place) :: t.marks⟩]
  | some .accept => none
  | none => some []

end Thread

/-- The first accepted way among threads, and the points visited.  Every round visits a new
point, so as many rounds are enough as there are points. -/
def explore (program : Array Instr) (text : Array Char) (origin : Nat) :
    (rounds : Nat) → Visited → List Thread → Option Thread × Visited
  | 0, v, _ => (none, v)
  | rounds + 1, v, threads =>
    match threads.dropWhile fun t => v.contains (t.point program.size origin) with
    | [] => (none, v)
    | t :: rest =>
      match t.successors program text with
      | none => (some t, v)
      | some next =>
        explore program text origin rounds (v.insert (t.point program.size origin)) (next ++ rest)

/-- A match: where it begins and ends, and the marks passed, the last one first. -/
structure Match where
  start : Nat
  stop : Nat
  marks : List (Nat × Nat)
  deriving DecidableEq, Repr

namespace Match

/-- Where a group begins and ends: group 0 is the whole match, any other group counts as often as
it took part last. -/
def group? (m : Match) (index : Nat) : Option (Nat × Nat) :=
  if index = 0 then some (m.start, m.stop)
  else do
    let start ← m.marks.lookup (2 * index)
    let stop ← m.marks.lookup (2 * index + 1)
    return (start, stop)

/-- Where the match begins and ends. -/
def span (m : Match) : Nat × Nat := (m.start, m.stop)

/-- Whether nothing was matched. -/
def isEmpty (m : Match) : Bool := m.start == m.stop

end Match

/-- Try `left` places from `start` on.  Points visited in vain from one place are of no use from a
later one. -/
def tryPlaces (program : Array Instr) (text : Array Char) (origin rounds : Nat) :
    (left start : Nat) → Visited → Option Match
  | 0, _, _ => none
  | left + 1, start, v =>
    match explore program text origin rounds v [⟨0, start, []⟩] with
    | (some t, _) => some ⟨start, t.place, t.marks⟩
    | (none, v) => tryPlaces program text origin rounds left (start + 1) v

/-- The leftmost match that begins at `start` or behind it. -/
def searchFrom (program : Array Instr) (text : Array Char) (start : Nat) : Option Match :=
  let places := text.size + 1 - start
  let points := places * program.size
  tryPlaces program text start (points + 1) places start (.none points)

/-- The matches behind a place, where the last match before it ended at `last`.  They do not
overlap, and an empty match directly behind another match is passed over. -/
def matchesFrom (program : Array Instr) (text : Array Char) :
    (fuel start : Nat) → (last : Option Nat) → List Match
  | 0, _, _ => []
  | fuel + 1, start, last =>
    let found := match searchFrom program text start with
      | some m =>
        if m.isEmpty && last == some m.stop then searchFrom program text (start + 1) else some m
      | none => none
    match found with
    | some m => m :: matchesFrom program text fuel m.stop (some m.stop)
    | none => []

/-- All matches from the left.  Each ends behind the one before it, so there is at most one for
every place. -/
def allMatches (program : Array Instr) (text : Array Char) : List Match :=
  matchesFrom program text (text.size + 1) 0 none

end Scratchpad.Pattern
