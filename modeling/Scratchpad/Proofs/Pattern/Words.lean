import Scratchpad.Proofs.Pattern.Literal
import Scratchpad.Proofs.Pattern.Scan
import Scratchpad.Proofs.Text.Words

/-!
# Whole words

Between word boundaries, some words that stand for themselves are matched where one of them stands
as a word of the text.

* `Expr.ways_oneOf` — the ways of an alternation.
* `Expr.wordsExpr` — one of some words, between word boundaries.
* **`Expr.matchAt_wordsExpr`** — it is matched where one of the words begins and ends.
-/

namespace Scratchpad.Pattern

open Text (IsWord)
open Unicode (isWordChar)

variable {text : Array Char} {s : Spot} {w cs : List Char}

/-! ## What stands before a place -/

lemma Ahead.getElem?_add (h : Ahead text s cs) (k : ℕ) : text[s.place + k]? = cs[k]? := by
  rw [← h, List.getElem?_drop, Array.getElem?_toList]

/-- Behind some characters, the last of them is the one before. -/
lemma Ahead.before?_skip (h : Ahead text s (w ++ cs)) (hw : w ≠ []) :
    before? text (s.skip w).place = w.getLast? := by
  obtain ⟨n, hn⟩ := Nat.exists_eq_succ_of_ne_zero (List.length_pos_iff.mpr hw).ne'
  have hlast := h.getElem?_add n
  rw [List.getElem?_append_left (by omega)] at hlast
  rw [Spot.skip, hn, List.getLast?_eq_getElem?, hn]
  exact hlast

namespace Expr

/-! ## Alternatives -/

lemma ways_oneOf {es : List Expr} (hes : es ≠ []) (s : Spot) :
    (oneOf es).ways text s = es.flatMap fun e => e.ways text s := by
  induction es with
  | nil => exact absurd rfl hes
  | cons e es ih =>
      cases es with
      | nil => simp [oneOf]
      | cons d es =>
          have hstep : oneOf (e :: d :: es) = alternation e (oneOf (d :: es)) := rfl
          rw [hstep, ways, ih (List.cons_ne_nil d es)]
          rfl

lemma isPlain_seq {a b : Expr} (ha : a.IsPlain) (hb : b.IsPlain) : (seq a b).IsPlain := by
  unfold seq
  split
  · exact hb
  · exact ha
  · exact ⟨ha, hb⟩

lemma isPlain_literal (w : List Char) : (literal w).IsPlain := by
  induction w with
  | nil => trivial
  | cons c w ih => exact isPlain_seq trivial ih

lemma isPlain_oneOf {es : List Expr} (hes : ∀ e ∈ es, e.IsPlain) : (oneOf es).IsPlain := by
  induction es with
  | nil => trivial
  | cons e es ih =>
      have hfirst := hes e List.mem_cons_self
      have hrest := ih fun d hd => hes d (List.mem_cons_of_mem e hd)
      cases es with
      | nil => exact hfirst
      | cons d es => exact ⟨hfirst, hrest⟩

/-! ## Words -/

/-- A boundary of a word. -/
def boundary : Expr := .look (.word false .boundary)

/-- One of some words, between word boundaries. -/
def wordsExpr (ws : List (List Char)) : Expr :=
  .concat boundary (.concat (oneOf (ws.map literal)) boundary)

lemma isPlain_wordsExpr (ws : List (List Char)) : (wordsExpr ws).IsPlain := by
  refine ⟨trivial, isPlain_oneOf ?_, trivial⟩
  simp only [List.mem_map]
  rintro _ ⟨w, -, rfl⟩
  exact isPlain_literal w

/-- Whether a word goes on over a place from the characters before it. -/
def insideWord (text : Array Char) (place : ℕ) : Bool := inWord false (before? text place)

lemma ways_boundary (h : Ahead text s cs) :
    boundary.ways text s
      = if insideWord text s.place = inWord false cs.head? then [] else [s] := by
  rw [boundary, ways, h.getElem?, Look.holds, WordEdge.holds, insideWord]
  by_cases hin : inWord false (before? text s.place) = inWord false cs.head? <;> simp [hin]

/-- Behind a word there is a boundary if no word goes on there. -/
lemma insideWord_skip (h : Ahead text s (w ++ cs)) (hw : IsWord w) :
    insideWord text (s.skip w).place = true := by
  obtain ⟨hne, hall⟩ := hw
  rw [insideWord, h.before?_skip hne, List.getLast?_eq_some_getLast hne]
  exact hall _ (List.getLast_mem hne)

/-- A single word is matched, with a boundary behind it, if it is all that goes on as a word. -/
lemma findSome?_literal (h : Ahead text s cs) (hw : IsWord w) :
    ((literal w).ways text s).findSome? (boundary.first text)
      = if w = cs.takeWhile isWordChar then some (s.skip w) else none := by
  rw [ways_literal w h]
  by_cases hpre : w <+: cs
  · obtain ⟨cs, rfl⟩ := hpre
    have hbehind : Ahead text (s.skip w) cs := h.skip
    rw [if_pos (List.prefix_append w cs), List.findSome?_singleton, first, ways_boundary hbehind,
      insideWord_skip h hw, List.takeWhile_append_of_pos hw.2]
    cases cs with
    | nil => simp [inWord]
    | cons c cs =>
        by_cases hc : isWordChar c = true
        · simp [inWord, hc]
        · simp [inWord, hc]
  · rw [if_neg hpre, if_neg, List.findSome?_nil]
    rintro rfl
    exact hpre (List.takeWhile_prefix _)

lemma findSome?_words {ws : List (List Char)} (h : Ahead text s cs) (hws : ∀ w ∈ ws, IsWord w) :
    (ws.flatMap fun w => (literal w).ways text s).findSome? (boundary.first text)
      = if cs.takeWhile isWordChar ∈ ws then some (s.skip (cs.takeWhile isWordChar)) else none := by
  induction ws with
  | nil => simp
  | cons w ws ih =>
      have hrest := ih fun v hv => hws v (List.mem_cons_of_mem w hv)
      rw [List.flatMap_cons, List.findSome?_append, hrest,
        findSome?_literal h (hws w List.mem_cons_self)]
      by_cases heq : w = cs.takeWhile isWordChar
      · simp [← heq]
      · simp [heq, Ne.symm heq]

/-- **Whole words are matched as words of the text**: where no word has begun before, and one of
them goes on to its end. -/
theorem matchAt_wordsExpr {ws : List (List Char)} (hne : ws ≠ []) (hws : ∀ w ∈ ws, IsWord w)
    (text : Array Char) (place : ℕ) :
    (wordsExpr ws).matchAt text place
      = if insideWord text place = false ∧ (text.toList.drop place).takeWhile isWordChar ∈ ws then
          some ⟨place, place + ((text.toList.drop place).takeWhile isWordChar).length, []⟩
        else none := by
  have h : Ahead text ⟨place, []⟩ (text.toList.drop place) := rfl
  have hinner : (concat (oneOf (ws.map literal)) boundary).first text ⟨place, []⟩
      = if (text.toList.drop place).takeWhile isWordChar ∈ ws then
          some (Spot.skip ⟨place, []⟩ ((text.toList.drop place).takeWhile isWordChar))
        else none := by
    rw [first_concat, ways_oneOf (by simpa using hne), List.flatMap_map]
    exact findSome?_words h hws
  rw [matchAt_eq, wordsExpr, first_concat, ways_boundary h]
  by_cases hrun : (text.toList.drop place).takeWhile isWordChar ∈ ws
  · -- a word goes on at the place, so there is a boundary if none has begun before
    have hnext : inWord false (text.toList.drop place).head? = true := by
      have hword := hws _ hrun
      generalize text.toList.drop place = cs at hword
      cases cs with
      | nil => exact absurd rfl hword.1
      | cons c cs =>
          by_contra hc
          exact hword.1 (List.takeWhile_cons_of_neg hc)
    rw [hnext]
    cases hin : insideWord text place with
    | true => simp
    | false =>
        simp only [hrun, Bool.false_eq_true, if_false, List.findSome?_singleton, hinner]
        rfl
  · rw [if_neg hrun] at hinner
    split
    · simp [hrun]
    · simp [hrun, hinner]

end Expr

end Scratchpad.Pattern
