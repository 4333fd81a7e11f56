import Mathlib
import Scratchpad.Pattern.Search

/-!
# What an expression matches, and in which order

From a place of a text an expression can be matched in several ways, and there is an order in which
these are to be tried.  That order is the meaning of an expression; no program is needed to say what
it is.

* `Spot` — a place of a text, with the marks passed on the way to it.
* `Expr.ways` — where the matches of an expression lead to, the preferred one first.
* `Expr.IsPlain` — every unlimited repetition is one of something that takes a character.
* `Expr.place_add_le`, `Expr.place_le_size` — how far a match reaches at least and at most.
-/

namespace Scratchpad.Pattern

/-- A place of a text, with the marks passed on the way to it, the last one first. -/
structure Spot where
  place : ℕ
  marks : List (ℕ × ℕ)
  deriving DecidableEq, Repr

/-- The spot, with one more mark passed there. -/
def Spot.mark (s : Spot) (slot : ℕ) : Spot := { s with marks := (slot, s.place) :: s.marks }

/-- A step made a number of times. -/
def times (f : Spot → List Spot) : (n : ℕ) → Spot → List Spot
  | 0, s => [s]
  | n + 1, s => (f s).flatMap (times f n)

/-- A step made up to a number of times: a greedy choice goes on first, any other stops first. -/
def upTo (f : Spot → List Spot) (greedy : Bool) : (n : ℕ) → Spot → List Spot
  | 0, s => [s]
  | n + 1, s =>
    if greedy then (f s).flatMap (upTo f greedy n) ++ [s]
    else s :: (f s).flatMap (upTo f greedy n)

namespace Expr

variable (text : Array Char)

/-- Where the matches of an expression from a spot on lead to, the preferred one first.  An
unlimited repetition is one of up to as many times as there are characters left. -/
def ways : Expr → Spot → List Spot
  | .empty, s => [s]
  | .chars set, s =>
    match text[s.place]? with
    | some c => if set.contains c then [{ s with place := s.place + 1 }] else []
    | none => []
  | .look l, s => if l.holds (before? text s.place) text[s.place]? then [s] else []
  | .capture index _ e, s => (e.ways (s.mark (2 * index))).map (·.mark (2 * index + 1))
  | .concat a b, s => (a.ways s).flatMap b.ways
  | .alternation a b, s => a.ways s ++ b.ways s
  | .repetition least most greedy e, s =>
    (times e.ways least s).flatMap fun s' =>
      upTo e.ways greedy (most.elim (text.size - s'.place) (· - least)) s'

/-- Every unlimited repetition is one of something that takes a character. -/
def IsPlain : Expr → Prop
  | .empty | .chars _ | .look _ => True
  | .capture _ _ e => e.IsPlain
  | .concat a b | .alternation a b => a.IsPlain ∧ b.IsPlain
  | .repetition _ most _ e => e.IsPlain ∧ (most = none → e.takesSomething = true)

/-- Whether an expression is plain can be decided. -/
def decidablePlain : (e : Expr) → Decidable e.IsPlain
  | .empty | .chars _ | .look _ => .isTrue trivial
  | .capture _ _ e => e.decidablePlain
  | .concat a b | .alternation a b =>
    have := a.decidablePlain
    have := b.decidablePlain
    inferInstanceAs (Decidable (a.IsPlain ∧ b.IsPlain))
  | .repetition _ most _ e =>
    have := e.decidablePlain
    inferInstanceAs (Decidable (e.IsPlain ∧ (most = none → e.takesSomething = true)))

instance : DecidablePred IsPlain := decidablePlain

end Expr

/-! ## How far a match reaches -/

section

variable {f : Spot → List Spot} {s s' : Spot}

lemma place_le_of_mem_times {m n : ℕ} (hf : ∀ s, ∀ s' ∈ f s, s.place + m ≤ s'.place)
    (h : s' ∈ times f n s) : s.place + n * m ≤ s'.place := by
  induction n generalizing s with
  | zero =>
      rw [times, List.mem_singleton] at h
      simp [h]
  | succ n ih =>
      obtain ⟨t, ht, hs'⟩ := List.mem_flatMap.mp h
      have hstep := hf s t ht
      have hrest := ih hs'
      rw [Nat.succ_mul]
      omega

lemma mem_upTo_succ {greedy : Bool} {n : ℕ} :
    s' ∈ upTo f greedy (n + 1) s ↔ s' = s ∨ ∃ t ∈ f s, s' ∈ upTo f greedy n t := by
  rw [upTo]
  cases greedy <;> simp [or_comm]

/-- What holds between a spot and where one step leads holds for any number of steps. -/
lemma rel_of_mem_upTo {r : Spot → Spot → Prop} (hrefl : ∀ s, r s s)
    (hstep : ∀ s t u, t ∈ f s → r t u → r s u) {greedy : Bool} {n : ℕ}
    (h : s' ∈ upTo f greedy n s) : r s s' := by
  induction n generalizing s with
  | zero =>
      rw [upTo, List.mem_singleton] at h
      rw [h]
      exact hrefl s
  | succ n ih =>
      rcases mem_upTo_succ.mp h with rfl | ⟨t, ht, hs'⟩
      · exact hrefl s'
      · exact hstep s t s' ht (ih hs')

lemma rel_of_mem_times {r : Spot → Spot → Prop} (hrefl : ∀ s, r s s)
    (hstep : ∀ s t u, t ∈ f s → r t u → r s u) {n : ℕ} (h : s' ∈ times f n s) : r s s' := by
  induction n generalizing s with
  | zero =>
      rw [times, List.mem_singleton] at h
      rw [h]
      exact hrefl s
  | succ n ih =>
      obtain ⟨t, ht, hs'⟩ := List.mem_flatMap.mp h
      exact hstep s t s' ht (ih hs')

end

namespace Expr

variable {text : Array Char} {s s' : Spot}

/-- One character of a set is the next one of the text. -/
lemma place_of_mem_ways_chars {set : Unicode.CharSet} (h : s' ∈ (chars set).ways text s) :
    s.place < text.size ∧ s'.place = s.place + 1 := by
  rw [ways] at h
  cases hc : text[s.place]? with
  | none => simp [hc] at h
  | some c =>
      obtain ⟨hlt, -⟩ := Array.getElem?_eq_some_iff.mp hc
      simp only [hc] at h
      split at h
      · rw [List.mem_singleton.mp h]
        exact ⟨hlt, rfl⟩
      · cases h

/-- **A relation that each character taken respects** holds from the beginning of a match to its
end. -/
theorem rel_of_mem_ways {r : ℕ → ℕ → Prop} (hrefl : ∀ i, r i i)
    (htrans : ∀ i j k, r i j → r j k → r i k) (hchar : ∀ i, i < text.size → r i (i + 1))
    (e : Expr) (h : s' ∈ e.ways text s) : r s.place s'.place := by
  induction e generalizing s s' with
  | empty =>
      rw [ways, List.mem_singleton] at h
      rw [h]
      exact hrefl _
  | chars set =>
      obtain ⟨hlt, hplace⟩ := place_of_mem_ways_chars h
      rw [hplace]
      exact hchar _ hlt
  | look l =>
      rw [ways] at h
      split at h
      · rw [List.mem_singleton.mp h]
        exact hrefl _
      · cases h
  | capture index name e ih =>
      obtain ⟨t, ht, rfl⟩ := List.mem_map.mp h
      have hinner : r (s.mark (2 * index)).place t.place := ih ht
      exact hinner
  | concat a b iha ihb =>
      obtain ⟨t, ht, hs'⟩ := List.mem_flatMap.mp h
      exact htrans _ _ _ (iha ht) (ihb hs')
  | alternation a b iha ihb =>
      rcases List.mem_append.mp h with h | h
      · exact iha h
      · exact ihb h
  | repetition least most greedy e ih =>
      have hstep : ∀ s t u : Spot, t ∈ e.ways text s → r t.place u.place → r s.place u.place :=
        fun s t u ht hu => htrans _ _ _ (ih ht) hu
      obtain ⟨t, ht, hs'⟩ := List.mem_flatMap.mp h
      exact htrans _ _ _
        (rel_of_mem_times (r := fun s t => r s.place t.place) (fun s => hrefl _) hstep ht)
        (rel_of_mem_upTo (r := fun s t => r s.place t.place) (fun s => hrefl _) hstep hs')

/-- A match ends where it begins or behind. -/
lemma place_le (e : Expr) (h : s' ∈ e.ways text s) : s.place ≤ s'.place :=
  rel_of_mem_ways (r := (· ≤ ·)) (fun _ => le_rfl) (fun _ _ _ => le_trans)
    (fun i _ => Nat.le_succ i) e h

/-- A match does not reach out of the text. -/
lemma place_le_max (e : Expr) (h : s' ∈ e.ways text s) : s'.place ≤ max s.place text.size :=
  rel_of_mem_ways (r := fun i j => j ≤ max i text.size) (fun i => le_max_left i _)
    (fun i j k hij hjk => by omega) (fun i hi => by omega) e h

/-- **A match takes as many characters as it must.** -/
theorem place_add_minLength_le {e : Expr} {m : ℕ} (hm : e.minLength = some m)
    (h : s' ∈ e.ways text s) : s.place + m ≤ s'.place := by
  induction e generalizing s s' m with
  | empty | look l =>
      cases hm
      exact place_le _ h
  | chars set =>
      rw [minLength] at hm
      split at hm
      · cases hm
      · cases hm
        exact (place_of_mem_ways_chars h).2.ge
  | capture index name e ih =>
      obtain ⟨t, ht, rfl⟩ := List.mem_map.mp h
      have hinner : (s.mark (2 * index)).place + m ≤ t.place := ih hm ht
      exact hinner
  | concat a b iha ihb =>
      rw [minLength, Option.bind_eq_some_iff] at hm
      obtain ⟨k, hk, hm⟩ := hm
      obtain ⟨l, hl, rfl⟩ := Option.map_eq_some_iff.mp hm
      obtain ⟨t, ht, hs'⟩ := List.mem_flatMap.mp h
      have ha := iha hk ht
      have hb := ihb hl hs'
      omega
  | alternation a b iha ihb =>
      rw [minLength, Option.bind_eq_some_iff] at hm
      obtain ⟨k, hk, hm⟩ := hm
      obtain ⟨l, hl, rfl⟩ := Option.map_eq_some_iff.mp hm
      rcases List.mem_append.mp h with h | h
      · have := iha hk h
        omega
      · have := ihb hl h
        omega
  | repetition least most greedy e ih =>
      rw [minLength] at hm
      obtain ⟨k, hk, rfl⟩ := Option.map_eq_some_iff.mp hm
      obtain ⟨t, ht, hs'⟩ := List.mem_flatMap.mp h
      have hfirst := place_le_of_mem_times (fun s s' h => ih hk h) ht
      have hrest := rel_of_mem_upTo (r := fun s t => s.place ≤ t.place) (fun s => le_rfl)
        (fun s t u ht hu => (e.place_le ht).trans hu) hs'
      omega

/-- What takes something takes a character in every match. -/
lemma place_lt_of_takesSomething {e : Expr} (he : e.takesSomething = true)
    (h : s' ∈ e.ways text s) : s.place < s'.place := by
  unfold takesSomething at he
  cases hm : e.minLength with
  | none => simp [hm] at he
  | some m =>
      have hpos : 0 < m := by simpa [hm] using he
      have := place_add_minLength_le hm h
      omega

end Expr

end Scratchpad.Pattern
