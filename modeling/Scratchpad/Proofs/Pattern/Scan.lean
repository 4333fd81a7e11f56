import Scratchpad.Proofs.Pattern.Find
import Scratchpad.Proofs.Pattern.First

/-!
# Finding all matches, place by place

The matches that a search reports one after the other can be met on one way through the text.  At
each place there is either a match, and the way goes on behind it, or none, and it goes on with the
next character.

* `Expr.Scans` — the way through the text and the matches on it.
* **`Expr.scans_allMatches`** — what a search reports is met on the way, if no match is empty.
* `Expr.matchAt_eq` — the match at a place, from the preferred way there.
-/

namespace Scratchpad.Pattern.Expr

/-- **The matches on the way through a text** from a place on. -/
inductive Scans (e : Expr) (text : Array Char) : (place : ℕ) → List Match → Prop
  | done : Scans e text text.size []
  | skip {place : ℕ} {ms : List Match} (hlt : place < text.size)
      (hnone : e.matchAt text place = none) (hrest : Scans e text (place + 1) ms) :
      Scans e text place ms
  | found {place : ℕ} {m : Match} {ms : List Match} (hm : e.matchAt text place = some m)
      (hrest : Scans e text m.stop ms) : Scans e text place (m :: ms)

variable {e : Expr} {text : Array Char} {place : ℕ} {m : Match} {ms : List Match}

/-! ## One match -/

lemma matchAt_eq (e : Expr) (text : Array Char) (place : ℕ) :
    e.matchAt text place = (e.first text ⟨place, []⟩).map fun s => ⟨place, s.place, s.marks⟩ := rfl

/-! ## All matches -/

/-- Every match on the way lies ahead. -/
lemma Scans.le_start (h : Scans e text place ms) : ∀ m ∈ ms.head?, place ≤ m.start := by
  induction h with
  | done => simp
  | skip hlt hnone hrest ih => exact fun m hm => (Nat.le_succ _).trans (ih m hm)
  | found hm hrest ih =>
      rintro m ⟨⟩
      exact (start_of_matchAt hm).ge

/-- No match is empty, so that none is passed over. -/
lemma scans_of_successive (he : e.IsPlain)
    (htakes : ∀ p m, e.matchAt text p = some m → p < m.stop) {last : Option ℕ}
    (hplace : place ≤ text.size) (h : Successive e.program text place last ms) :
    Scans e text place ms := by
  induction h with
  | done => omega
  | @skip place last found ms _ hfound hempty hrest ih =>
      obtain rfl := hfound.unique (findsAt_program he place)
      have hnone : e.matchAt text place = none := by
        refine Option.eq_none_iff_forall_ne_some.mpr fun m hm => ?_
        exact (htakes place m hm).ne' (hempty m hm).1
      rcases hplace.eq_or_lt with rfl | hlt
      · cases hrest with
        | done => exact .done
        | skip hplace' _ _ _ => omega
        | found hplace' _ _ _ => omega
      · exact .skip hlt hnone (ih hlt)
  | @found place last m ms _ hm _ _ ih =>
      exact .found (hm.unique (findsAt_program he place)).symm (ih (hm.stop_le hplace).2)

/-- **All matches** of a plain expression that always takes something are met on the way through
the text. -/
theorem scans_allMatches (he : e.IsPlain)
    (htakes : ∀ p m, e.matchAt text p = some m → p < m.stop) :
    Scans e text 0 (allMatches e.program text) :=
  scans_of_successive he htakes (Nat.zero_le _) (successive_allMatches e text)

end Scratchpad.Pattern.Expr
