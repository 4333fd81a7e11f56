import Scratchpad.Proofs.Pattern.Ways

/-!
# The preferred way

What a search reports is the first way of an expression.  It can be found without listing the
others, from the characters ahead.

* `Ahead` — the characters ahead of a spot.
* `Expr.first` — where the preferred match leads to.
* `first_alternation`, `first_concat`, `first_concat_capture` — the first way, part by part.
* `findSome?_greedy_of_isSome`, `findSome?_greedy_of_none` — a greedy repetition takes all it can,
  if the rest can be matched there, or nowhere before.
* `first_greedy_pos`, `findSome?_counted` — the same where not every number of times will do.
* `findSome?_lazy_cons` — a lazy repetition tries one place after the other.
-/

namespace Scratchpad.Pattern

open Unicode (CharSet)

/-- The spot behind some more characters. -/
def Spot.skip (s : Spot) (w : List Char) : Spot := { s with place := s.place + w.length }

/-- These are the characters ahead of the spot. -/
def Ahead (text : Array Char) (s : Spot) (cs : List Char) : Prop := text.toList.drop s.place = cs

section

variable {text : Array Char} {s : Spot} {w cs : List Char}

@[simp]
lemma skip_nil (s : Spot) : s.skip [] = s := rfl

@[simp]
lemma skip_skip (s : Spot) (v w : List Char) : (s.skip v).skip w = s.skip (v ++ w) := by
  simp [Spot.skip, Nat.add_assoc]

lemma Ahead.skip (h : Ahead text s (w ++ cs)) : Ahead text (s.skip w) cs := by
  unfold Ahead at h ⊢
  rw [Spot.skip, ← List.drop_drop, h, List.drop_left]

lemma Ahead.skip_takeWhile (h : Ahead text s cs) (p : Char → Bool) :
    Ahead text (s.skip (cs.takeWhile p)) (cs.dropWhile p) := by
  apply Ahead.skip
  rw [List.takeWhile_append_dropWhile]
  exact h

lemma Ahead.mark (h : Ahead text s cs) (slot : ℕ) : Ahead text (s.mark slot) cs := h

lemma Ahead.size_sub (h : Ahead text s cs) : text.size - s.place = cs.length := by
  rw [← h, List.length_drop, Array.length_toList]

lemma Ahead.getElem? (h : Ahead text s cs) : text[s.place]? = cs.head? := by
  rw [← h, List.head?_drop, Array.getElem?_toList]

end

/-! ## Sets of characters -/

lemma contains_single (c d : Char) : (CharSet.single d).contains c = decide (c = d) := by
  simp only [CharSet.contains, CharSet.hasCode, CharSet.single, Unicode.inRanges, Bool.or_false]
  rcases lt_trichotomy c.toNat d.toNat with h | h | h
  · rw [if_pos h, eq_comm, decide_eq_false_iff_not]
    rintro rfl
    exact absurd h (lt_irrefl _)
  · have : c = d := Char.toNat_inj.mp h
    simp [this]
  · have : c ≠ d := by
      rintro rfl
      exact absurd h (lt_irrefl _)
    simp [this]
    omega

lemma contains_full (c : Char) : CharSet.full.contains c = true := by
  have hvalid : c.toNat.isValidChar := c.valid
  simp only [CharSet.contains, CharSet.hasCode, CharSet.full, Unicode.inRanges, Unicode.maxCode]
  unfold Nat.isValidChar at hvalid
  rcases hvalid with h | ⟨h, h'⟩
  · simp
    omega
  · simp
    omega

namespace Expr

variable (text : Array Char)

/-- Where the preferred match of an expression leads to. -/
def first (e : Expr) (s : Spot) : Option Spot := (e.ways text s).head?

variable {text} {s : Spot} {c : Char} {cs : List Char} {set : CharSet}

lemma first_alternation (a b : Expr) (s : Spot) :
    (alternation a b).first text s = (a.first text s).or (b.first text s) := by
  rw [first, ways, List.head?_append]
  rfl

lemma first_concat (a b : Expr) (s : Spot) :
    (concat a b).first text s = (a.ways text s).findSome? (b.first text) := by
  rw [first, ways, List.head?_flatMap]
  rfl

lemma first_concat_capture (index : ℕ) (name : Option String) (a b : Expr) (s : Spot) :
    (concat (capture index name a) b).first text s
      = (a.ways text (s.mark (2 * index))).findSome?
        fun t => b.first text (t.mark (2 * index + 1)) := by
  rw [first_concat, ways, List.findSome?_map]
  rfl

lemma ways_chars_cons (h : Ahead text s (c :: cs)) :
    (chars set).ways text s = if set.contains c then [s.skip [c]] else [] := by
  rw [ways, h.getElem?]
  rfl

lemma ways_chars_nil (h : Ahead text s []) : (chars set).ways text s = [] := by
  rw [ways, h.getElem?]
  rfl

/-! ## Repetitions -/

/-- Any number of matches is as many as there are characters ahead. -/
lemma ways_many (greedy : Bool) (e : Expr) (h : Ahead text s cs) :
    (repetition 0 none greedy e).ways text s = upTo (e.ways text) greedy cs.length s := by
  rw [ways, times, List.flatMap_singleton, Option.elim_none, h.size_sub]

/-- Something optional is skipped if it cannot be matched, or if that is of no use. -/
lemma ways_optional (e : Expr) (s : Spot) :
    (repetition 0 (some 1) true e).ways text s = e.ways text s ++ [s] := by
  simp [ways, times, upTo]

/-- The first way of a greedy repetition takes all it can.  From where any other way leads to, it
could have been taken further. -/
lemma ways_greedy (set : CharSet) (h : Ahead text s cs) : ∃ others,
    (repetition 0 none true (chars set)).ways text s
        = s.skip (cs.takeWhile set.contains) :: others ∧
      ∀ s' ∈ others, ∃ c cs', Ahead text s' (c :: cs') ∧ set.contains c := by
  rw [ways_many true _ h]
  induction cs generalizing s with
  | nil => exact ⟨[], rfl, by simp⟩
  | cons c cs ih =>
      rw [List.length_cons, upTo, if_pos rfl, ways_chars_cons h]
      by_cases hc : set.contains c
      · obtain ⟨others, hways, hothers⟩ := ih (Ahead.skip (w := [c]) h)
        refine ⟨others ++ [s], ?_, fun s' hs' => ?_⟩
        · simp [hc, hways]
        · rcases List.mem_append.mp hs' with hs' | hs'
          · exact hothers s' hs'
          · rw [List.mem_singleton.mp hs']
            exact ⟨c, cs, h, hc⟩
      · exact ⟨[], by simp [hc], by simp⟩

/-- A greedy repetition takes all it can if the rest can be matched behind that, -/
lemma findSome?_greedy_of_isSome (h : Ahead text s cs) {b : Spot → Option Spot}
    (hb : (b (s.skip (cs.takeWhile set.contains))).isSome) :
    ((repetition 0 none true (chars set)).ways text s).findSome? b
      = b (s.skip (cs.takeWhile set.contains)) := by
  obtain ⟨others, hways, -⟩ := ways_greedy set h
  rw [hways, List.findSome?_cons_of_isSome hb]

/-- or if it cannot be matched where one more character could be taken. -/
lemma findSome?_greedy_of_none (h : Ahead text s cs) {b : Spot → Option Spot}
    (hb : ∀ s' c cs', Ahead text s' (c :: cs') → set.contains c → b s' = none) :
    ((repetition 0 none true (chars set)).ways text s).findSome? b
      = b (s.skip (cs.takeWhile set.contains)) := by
  obtain ⟨others, hways, hothers⟩ := ways_greedy set h
  have hnone : others.findSome? b = none := by
    refine List.findSome?_eq_none_iff.mpr fun s' hs' => ?_
    obtain ⟨c, cs', hahead, hc⟩ := hothers s' hs'
    exact hb s' c cs' hahead hc
  rw [hways, List.findSome?_cons, hnone]
  cases b (s.skip (cs.takeWhile set.contains)) <;> rfl

/-- A lazy repetition goes on to the next character only if the rest cannot be matched here. -/
lemma findSome?_lazy_cons (h : Ahead text s (c :: cs)) (b : Spot → Option Spot) :
    ((repetition 0 none false (chars set)).ways text s).findSome? b
      = (b s).or (if set.contains c then
          ((repetition 0 none false (chars set)).ways text (s.skip [c])).findSome? b
        else none) := by
  rw [ways_many false _ h, ways_many false _ (Ahead.skip (w := [c]) h), List.length_cons, upTo,
    if_neg Bool.false_ne_true, ways_chars_cons h, List.findSome?_cons]
  by_cases hc : set.contains c <;> cases b s <;> simp [hc]

lemma findSome?_lazy_nil (h : Ahead text s []) (b : Spot → Option Spot) :
    ((repetition 0 none false (chars set)).ways text s).findSome? b = b s := by
  rw [ways_many false _ h, List.length_nil, upTo, List.findSome?_cons]
  cases b s <;> rfl

/-- A repetition that must begin is one match and the rest of the repetition. -/
lemma ways_repetition_succ (text : Array Char) (least : ℕ) (most : Option ℕ) (greedy : Bool)
    (e : Expr) (s : Spot) :
    (repetition (least + 1) (most.map (· + 1)) greedy e).ways text s
      = (e.ways text s).flatMap ((repetition least most greedy e).ways text) := by
  simp only [ways, times, List.flatMap_assoc]
  cases most <;> simp

/-- The first way of a greedy repetition takes all it can, if it is not too little. -/
lemma first_greedy_pos (set : CharSet) (h : Ahead text s cs) :
    (repetition 1 none true (chars set)).first text s
      = if cs.takeWhile set.contains = [] then none
        else some (s.skip (cs.takeWhile set.contains)) := by
  have hsplit := ways_repetition_succ text 0 none true (chars set) s
  rw [Option.map_none, Nat.zero_add] at hsplit
  rw [first, hsplit]
  cases cs with
  | nil => simp [ways_chars_nil h]
  | cons c cs =>
      rw [ways_chars_cons h, List.takeWhile_cons]
      by_cases hc : set.contains c = true
      · obtain ⟨others, hways, -⟩ := ways_greedy set (Ahead.skip (w := [c]) h)
        simp [hc, hways]
      · simp [hc]

/-- A counted greedy repetition takes the whole run of its characters, if the rest cannot be
matched in front of one of them.  The run must have a length that is allowed. -/
lemma findSome?_counted {least most : ℕ} (hle : least ≤ most) (h : Ahead text s cs)
    {b : Spot → Option Spot}
    (hb : ∀ s' c cs', Ahead text s' (c :: cs') → set.contains c → b s' = none) :
    ((repetition least (some most) true (chars set)).ways text s).findSome? b
      = if least ≤ (cs.takeWhile set.contains).length ∧
          (cs.takeWhile set.contains).length ≤ most
        then b (s.skip (cs.takeWhile set.contains)) else none := by
  induction most generalizing least s cs with
  | zero =>
      obtain rfl : least = 0 := by omega
      cases cs with
      | nil => simp [ways, times, upTo]
      | cons c cs =>
          by_cases hc : set.contains c = true
          · simp [ways, times, upTo, hc, hb s c cs h hc]
          · simp [ways, times, upTo, hc]
  | succ most ih =>
      cases least with
      | zero =>
          have hsplit : (repetition 0 (some (most + 1)) true (chars set)).ways text s
              = ((chars set).ways text s).flatMap
                  ((repetition 0 (some most) true (chars set)).ways text) ++ [s] := by
            simp [ways, times, upTo]
          rw [hsplit, List.findSome?_append]
          cases cs with
          | nil => simp [ways_chars_nil h]
          | cons c cs =>
              rw [ways_chars_cons h]
              by_cases hc : set.contains c = true
              · have hmore := ih (Nat.zero_le _) (Ahead.skip (w := [c]) h)
                simp [hc, hmore, hb s c cs h hc]
              · simp [hc]
      | succ least =>
          have hsplit := ways_repetition_succ text least (some most) true (chars set) s
          rw [Option.map_some] at hsplit
          rw [hsplit]
          cases cs with
          | nil => simp [ways_chars_nil h]
          | cons c cs =>
              rw [ways_chars_cons h]
              by_cases hc : set.contains c = true
              · have hmore := ih (Nat.le_of_succ_le_succ hle) (Ahead.skip (w := [c]) h)
                simp [hc, hmore]
              · simp [hc]

end Expr

end Scratchpad.Pattern
