import Scratchpad.Pattern.Look
import Scratchpad.Unicode.CharSet

/-!
# Expressions

What a pattern means once its flags have been applied: sets of characters, conditions on a place,
and how they are repeated, combined and captured.

* `Expr` — the expressions.
* `Expr.seq`, `Expr.ofList`, `Expr.oneOf` — sequences and alternations.
* `Expr.repeated` — repetitions, the trivial ones left out.
* `Expr.takesNothing`, `Expr.minLength` — how long a match is at most and at least.
* `Expr.captures` — the groups that an expression holds.
-/

namespace Scratchpad.Pattern

open Unicode (CharSet)

/-- The meaning of a pattern. -/
inductive Expr where
  | empty
  | chars (set : CharSet)
  | look (l : Look)
  | capture (index : Nat) (name : Option String) (inner : Expr)
  | repetition (least : Nat) (most : Option Nat) (greedy : Bool) (inner : Expr)
  | concat (left right : Expr)
  | alternation (left right : Expr)
  deriving DecidableEq, Repr

namespace Expr

/-- One expression after another; nothing is no part of a sequence. -/
def seq : Expr → Expr → Expr
  | .empty, e => e
  | e, .empty => e
  | a, b => .concat a b

/-- All expressions of a list, one after another. -/
def ofList (es : List Expr) : Expr := es.foldr seq .empty

/-- One of the expressions of a list, which is not empty; the first is tried first. -/
def oneOf : List Expr → Expr
  | [] => .chars .empty
  | [e] => e
  | e :: es => .alternation e (oneOf es)

/-- Whether every match is empty. -/
def takesNothing : Expr → Bool
  | .empty | .look _ => true
  | .chars _ => false
  | .capture _ _ e | .repetition _ _ _ e => e.takesNothing
  | .concat a b | .alternation a b => a.takesNothing && b.takesNothing

/-- A lower bound on the number of characters in a match, where one is known. -/
def minLength : Expr → Option Nat
  | .empty | .look _ => some 0
  | .chars set => if set.isEmpty then none else some 1
  | .capture _ _ e => e.minLength
  | .repetition least _ _ e => e.minLength.map (least * ·)
  | .concat a b => a.minLength.bind fun m => b.minLength.map (m + ·)
  | .alternation a b => a.minLength.bind fun m => b.minLength.map (min m ·)

/-- Whether every match is known to take a character. -/
def takesSomething (e : Expr) : Bool := e.minLength.any (0 < ·)

/-- An expression repeated.  To repeat what takes nothing more than once changes nothing, and no
repetition or just one need not be kept. -/
def repeated (least : Nat) (most : Option Nat) (greedy : Bool) (e : Expr) : Expr :=
  let (least, most) :=
    if e.takesNothing then (min least 1, some (min (most.getD 1) 1)) else (least, most)
  if least = 0 ∧ most = some 0 then .empty
  else if least = 1 ∧ most = some 1 then e
  else .repetition least most greedy e

/-- The groups that the expression holds, each with its name. -/
def captures : Expr → List (Nat × Option String)
  | .empty | .chars _ | .look _ => []
  | .capture index name e => (index, name) :: e.captures
  | .repetition _ _ _ e => e.captures
  | .concat a b | .alternation a b => a.captures ++ b.captures

end Expr

end Scratchpad.Pattern
