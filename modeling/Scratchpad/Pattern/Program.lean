import Scratchpad.Pattern.Expr

/-!
# Programs for searching

An expression is laid out as a list of instructions.  The code of an expression takes a stretch of
addresses; it is entered at the beginning and left at the end.  Where there is a choice, the
instruction names the two addresses in the order in which they are to be tried.

* `Instr` — the instructions.
* `Expr.code` — the code of an expression from an address on.
* `Expr.program` — the code of a whole pattern.
-/

namespace Scratchpad.Pattern

open Unicode (CharSet)

/-- One instruction.  After `chars`, `look` and `mark` the next address follows. -/
inductive Instr where
  | chars (set : CharSet)
  | look (l : Look)
  | split (first second : Nat)
  | jump (target : Nat)
  | mark (slot : Nat)
  | accept
  deriving DecidableEq, Repr

/-- Go on inside a repetition or behind it: a greedy one goes inside first. -/
def branch (greedy : Bool) (inside behind : Nat) : Instr :=
  if greedy then .split inside behind else .split behind inside

/-- The code of `n` copies, one behind the other. -/
def copies (body : Nat → List Instr) : (n start : Nat) → List Instr
  | 0, _ => []
  | n + 1, start =>
    let c := body start
    c ++ copies body n (start + c.length)

/-- The code of up to `n` copies.  Before each of them the whole can be left for `stop`. -/
def optionals (body : Nat → List Instr) (greedy : Bool) (stop : Nat) : (n start : Nat) → List Instr
  | 0, _ => []
  | n + 1, start =>
    let c := body (start + 1)
    branch greedy (start + 1) stop :: (c ++ optionals body greedy stop n (start + 1 + c.length))

/-- The code of one or more copies. -/
def oneOrMore (body : Nat → List Instr) (greedy : Bool) (start : Nat) : List Instr :=
  let c := body start
  c ++ [branch greedy start (start + c.length + 1)]

/-- The code of any number of copies.  A body that always takes a character returns to the one
place where the choice is made.  Any other body gets a choice of its own behind it, so that an
empty round leads out of the repetition and does not hide what comes later. -/
def zeroOrMore (body : Nat → List Instr) (greedy takesSomething : Bool) (start : Nat) :
    List Instr :=
  if takesSomething then
    let c := body (start + 1)
    branch greedy (start + 1) (start + c.length + 2) :: (c ++ [.jump start])
  else
    let c := oneOrMore body greedy (start + 1)
    branch greedy (start + 1) (start + 1 + c.length) :: c

/-- The code of a counted repetition. -/
def repeatCode (body : Nat → List Instr) (least : Nat) (most : Option Nat)
    (greedy takesSomething : Bool) (start : Nat) : List Instr :=
  match most with
  | some most =>
    let c := copies body least start
    let size := (body start).length
    let start := start + c.length
    c ++ optionals body greedy (start + (most - least) * (size + 1)) (most - least) start
  | none =>
    match least with
    | 0 => zeroOrMore body greedy takesSomething start
    | n + 1 =>
      let c := copies body n start
      c ++ oneOrMore body greedy (start + c.length)

namespace Expr

/-- The code of an expression from the address `start` on. -/
def code : Expr → (start : Nat) → List Instr
  | .empty, _ => []
  | .chars set, _ => [.chars set]
  | .look l, _ => [.look l]
  | .capture index _ e, start =>
    .mark (2 * index) :: (e.code (start + 1) ++ [.mark (2 * index + 1)])
  | .concat a b, start =>
    let c := a.code start
    c ++ b.code (start + c.length)
  | .alternation a b, start =>
    let c := a.code (start + 1)
    let second := start + c.length + 2
    let d := b.code second
    .split (start + 1) second :: (c ++ .jump (second + d.length) :: d)
  | .repetition least most greedy e, start =>
    repeatCode e.code least most greedy e.takesSomething start

/-- The code of a whole pattern. -/
def program (e : Expr) : Array Instr := (e.code 0 ++ [Instr.accept]).toArray

end Expr

end Scratchpad.Pattern
