/-!
# Runs of shifted code points

Tables that map characters to characters do so in runs: every code point of a range, or every
second one, is moved by the same distance.
-/

namespace Scratchpad.Unicode

/-- The code points `first`, `first + step`, …, `last` are mapped to `image`, `image + step`, … -/
structure Shift where
  first : Nat
  last : Nat
  step : Nat
  image : Nat
  deriving DecidableEq, Repr

namespace Shift

/-- Whether the run maps the code point. -/
def maps (s : Shift) (n : Nat) : Bool :=
  s.first ≤ n && n ≤ s.last && (n - s.first) % s.step == 0

/-- The image of a code point under the first run that maps it. -/
def image? (n : Nat) (runs : List Shift) : Option Nat :=
  (runs.find? (·.maps n)).map fun s => s.image + (n - s.first)

/-- All code points of the run, each with its image. -/
def pairs (s : Shift) : List (Nat × Nat) :=
  (List.range ((s.last - s.first) / s.step + 1)).map fun i =>
    (s.first + i * s.step, s.image + i * s.step)

end Shift

end Scratchpad.Unicode
