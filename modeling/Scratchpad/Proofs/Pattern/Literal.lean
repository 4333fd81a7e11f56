import Scratchpad.Proofs.Pattern.First

/-!
# Sequences and literal text

A sequence is matched part by part, and a text that stands for itself is matched where it stands.

* `Expr.ways_seq`, `Expr.ways_ofList_append` — the ways of a sequence.
* `Expr.literal`, `Expr.ways_literal` — a text that stands for itself.
-/

namespace Scratchpad.Pattern.Expr

variable {text : Array Char} {s : Spot} {cs : List Char}

lemma ways_seq (a b : Expr) (s : Spot) :
    (seq a b).ways text s = (a.ways text s).flatMap (b.ways text) := by
  unfold seq
  split
  · simp [ways]
  · simp [ways]
  · rfl

lemma ways_ofList_cons (e : Expr) (es : List Expr) (s : Spot) :
    (ofList (e :: es)).ways text s = (e.ways text s).flatMap ((ofList es).ways text) :=
  ways_seq e (ofList es) s

lemma ways_ofList_append (as bs : List Expr) (s : Spot) :
    (ofList (as ++ bs)).ways text s
      = ((ofList as).ways text s).flatMap ((ofList bs).ways text) := by
  induction as generalizing s with
  | nil => simp [ofList, ways]
  | cons a as ih =>
      rw [List.cons_append, ways_ofList_cons, ways_ofList_cons, List.flatMap_assoc]
      congr 1
      funext t
      exact ih t

/-- A text that stands for itself. -/
def literal (w : List Char) : Expr := ofList (w.map fun c => chars (.single c))

/-- **A literal text** is matched where it stands, and nowhere else. -/
theorem ways_literal (w : List Char) (h : Ahead text s cs) :
    (literal w).ways text s = if w <+: cs then [s.skip w] else [] := by
  induction w generalizing s cs with
  | nil => simp [literal, ofList, ways]
  | cons x w ih =>
      rw [literal, List.map_cons, ways_ofList_cons]
      cases cs with
      | nil => simp [ways_chars_nil h]
      | cons c cs =>
          simp only [ways_chars_cons h, contains_single, List.cons_prefix_cons]
          by_cases hc : c = x
          · subst hc
            have hrest := ih (Ahead.skip (w := [c]) h)
            rw [literal] at hrest
            by_cases hw : w <+: cs <;> simp [hrest, hw]
          · simp [hc, Ne.symm hc]

end Scratchpad.Pattern.Expr
