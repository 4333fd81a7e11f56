import Scratchpad.Proofs.Rule.Unit

/-!
# A rule file as segments between quotes

The reader goes through a text by characters and tries one closing quote after the other.  Cut at
its quotes, the same text can be read without any search: which segments make a rule depends on
one segment only, the arrow.

* `scan` — the rules of a text, by its segments.
* `readRule?_segments`, `readRule?_segments_eq_none` — what is read behind a quote, by segments.
* **`readAll_eq_scan`** — the reader and the scan agree on every text.
-/

namespace Scratchpad.Rule

/-! ## The scan -/

/-- Whether a segment is an arrow can be decided, by reading it. -/
instance : DecidablePred IsArrow := fun a =>
  decidable_of_iff (afterArrow? ((a ++ ['"']).dropWhile isFlagLetter) = some []) <| by
    rw [afterArrow?_eq_some_iff]
    constructor
    · rintro ⟨a', ha', h⟩
      rwa [List.append_cancel_right h]
    · intro ha
      exact ⟨a, ha, rfl⟩

/-- The segment with a number. -/
def segment (s : List (List Char)) (k : ℕ) : List Char := s.getD k []

/-- Segment `j` is the last of a pattern: an arrow follows, and behind it there are a replacement
and a closing quote. -/
def EndsPattern (s : List (List Char)) (j : ℕ) : Prop :=
  j + 3 < s.length ∧ IsArrow (segment s (j + 1))

instance (s : List (List Char)) : DecidablePred (EndsPattern s) := fun _ => instDecidableAnd

/-- The first segment from number `i` on that ends a pattern. -/
def firstEnd? (s : List (List Char)) (i : ℕ) : Option ℕ :=
  (List.range s.length).find? fun j => i ≤ j ∧ EndsPattern s j

/-- The segments `i` to `j`, with the quotes between them. -/
def joined (s : List (List Char)) (i j : ℕ) : List Char :=
  ['"'].intercalate ((s.drop i).take (j + 1 - i))

/-- The rule whose pattern takes the segments `i` to `j`. -/
def ruleAt (s : List (List Char)) (i j : ℕ) : Rule where
  pattern := .ofList (joined s i j)
  patternFlags := .ofList ((segment s (j + 1)).filter isFlagLetter)
  replacement := .ofList (segment s (j + 2))
  replacementFlags := .ofList ((segment s (j + 3)).takeWhile isFlagLetter)

lemma firstEnd?_eq_some_iff {s : List (List Char)} {i j : ℕ} :
    firstEnd? s i = some j ↔
      i ≤ j ∧ EndsPattern s j ∧ ∀ k, i ≤ k → k < j → ¬ EndsPattern s k := by
  rw [firstEnd?, List.find?_range_eq_some]
  simp only [decide_eq_true_eq, List.mem_range, Bool.not_eq_true', decide_eq_false_iff_not]
  constructor
  · rintro ⟨⟨hij, hj⟩, -, hmin⟩
    exact ⟨hij, hj, fun k hik hkj hk => hmin k hkj ⟨hik, hk⟩⟩
  · rintro ⟨hij, hj, hmin⟩
    exact ⟨⟨hij, hj⟩, by have := hj.1; omega, fun k hkj hk => hmin k hk.1 hkj hk.2⟩

lemma firstEnd?_eq_none_iff {s : List (List Char)} {i : ℕ} :
    firstEnd? s i = none ↔ ∀ j, i ≤ j → ¬ EndsPattern s j := by
  simp only [firstEnd?, List.find?_eq_none, List.mem_range, decide_eq_true_eq, not_and]
  constructor
  · intro h j hij hj
    exact h j (by have := hj.1; omega) hij hj
  · intro h j _ hij
    exact h j hij

/-- The rules of a text's segments from number `i` on. -/
def scanFrom (s : List (List Char)) (i : ℕ) : List Rule :=
  match _h : firstEnd? s i with
  | some j => ruleAt s i j :: scanFrom s (j + 4)
  | none => []
  termination_by s.length - i
  decreasing_by
    obtain ⟨hij, hj, -⟩ := firstEnd?_eq_some_iff.mp _h
    have := hj.1
    omega

/-- The rules of a text, by the segments between its quotes.  What stands before the first quote
is segment 0. -/
def scan (text : String) : List Rule := scanFrom (text.toList.splitOn '"') 1

/-! ## Segments and text -/

/-- The flags of an arrow are all of its letters. -/
lemma filter_letters_of_isArrow {a : List Char} (h : IsArrow a) :
    a.filter isFlagLetter = a.takeWhile isFlagLetter := by
  obtain ⟨f, b₁, b₂, hf, h₁, h₂, rfl⟩ := h
  have hb : ∀ b, IsBreak b → b.filter isFlagLetter = [] := by
    rintro b (rfl | rfl | rfl) <;> decide
  have harrow : ['-', '>'].filter isFlagLetter = [] := by decide
  simp only [List.append_assoc, List.takeWhile_append_of_pos hf, List.filter_append,
    List.filter_eq_self.mpr hf, hb b₁ h₁, hb b₂ h₂, harrow]
  rcases h₁ with rfl | rfl | rfl <;> rfl

/-- No quote stands in a segment between quotes. -/
lemma quote_notMem_of_mem_splitOn {cs s : List Char} (h : s ∈ cs.splitOn '"') : '"' ∉ s := by
  induction cs generalizing s with
  | nil =>
      rw [List.splitOn_nil, List.mem_singleton] at h
      simp [h]
  | cons c cs ih =>
      rw [List.splitOn_cons_eq_if_modifyHead] at h
      split at h
      · rcases List.mem_cons.mp h with rfl | h
        · simp
        · exact ih h
      · next hc =>
        obtain ⟨t, ts, hts⟩ := List.exists_cons_of_ne_nil (List.splitOn_ne_nil '"' cs)
        rw [hts, List.modifyHead_cons] at h
        rcases List.mem_cons.mp h with rfl | h
        · have ht := ih (hts ▸ List.mem_cons_self : t ∈ cs.splitOn '"')
          simp only [beq_iff_eq] at hc
          simp [ht, Ne.symm hc]
        · exact ih (hts ▸ List.mem_cons_of_mem _ h)

/-- The text from segment `i` on. -/
def textFrom (s : List (List Char)) (i : ℕ) : List Char := ['"'].intercalate (s.drop i)

/-- The text from the quote in front of segment `i` on. -/
def quoteFrom (s : List (List Char)) (i : ℕ) : List Char :=
  if i < s.length then '"' :: textFrom s i else []

section

variable {s : List (List Char)} {i j : ℕ}

lemma quoteFrom_of_lt (h : i < s.length) : quoteFrom s i = '"' :: textFrom s i := if_pos h

lemma quoteFrom_of_le (h : s.length ≤ i) : quoteFrom s i = [] := if_neg (by omega)

lemma drop_eq_segment_cons (h : i < s.length) : s.drop i = segment s i :: s.drop (i + 1) := by
  rw [List.drop_eq_getElem_cons h, segment, List.getD_eq_getElem _ _ h]

/-- A segment, and then the next quote. -/
lemma textFrom_eq (h : i < s.length) : textFrom s i = segment s i ++ quoteFrom s (i + 1) := by
  rw [textFrom, drop_eq_segment_cons h]
  by_cases hi : i + 1 < s.length
  · rw [List.intercalate_cons_of_ne_nil (by simpa using hi), quoteFrom_of_lt hi]
    simp [textFrom]
  · rw [List.drop_eq_nil_of_le (by omega), quoteFrom_of_le (by omega)]
    simp

lemma joined_self (h : i < s.length) : joined s i i = segment s i := by
  rw [joined, drop_eq_segment_cons h]
  simp

lemma joined_of_lt (hij : i < j) (hj : j < s.length) :
    joined s i j = segment s i ++ '"' :: joined s (i + 1) j := by
  have hne : (s.drop (i + 1)).take (j + 1 - (i + 1)) ≠ [] := by
    simp only [ne_eq, List.take_eq_nil_iff, List.drop_eq_nil_iff]
    omega
  rw [joined, drop_eq_segment_cons (by omega), show j + 1 - i = (j + 1 - (i + 1)) + 1 by omega,
    List.take_succ_cons, List.intercalate_cons_of_ne_nil hne]
  simp [joined]

/-! ## Reading segments -/

variable (hs : ∀ x ∈ s, '"' ∉ x)

include hs

lemma quote_notMem_segment (k : ℕ) : '"' ∉ segment s k := by
  unfold segment
  by_cases h : k < s.length
  · rw [List.getD_eq_getElem _ _ h]
    exact hs _ (List.getElem_mem h)
  · rw [List.getD_eq_default _ _ (by omega)]
    simp

/-- What is read behind the last segment of a pattern. -/
lemma readClosing?_of_endsPattern (h : EndsPattern s i) :
    readClosing? (textFrom s (i + 1))
      = some (closing (segment s (i + 1)) (segment s (i + 2)) (textFrom s (i + 3))) := by
  obtain ⟨hlen, harrow⟩ := h
  refine readClosing?_eq_some_iff.mpr ⟨_, _, _, harrow, quote_notMem_segment hs _, ?_, rfl⟩
  rw [textFrom_eq (by omega), quoteFrom_of_lt (by omega), textFrom_eq (by omega),
    quoteFrom_of_lt (by omega)]

/-- Nothing is read behind any other segment. -/
lemma readClosing?_of_not_endsPattern (hi : i + 1 < s.length) (h : ¬ EndsPattern s i) :
    readClosing? (textFrom s (i + 1)) = none := by
  refine readClosing?_eq_none_iff.mpr fun a body ha hbody hq => h ?_
  rw [textFrom_eq hi] at hbody
  by_cases h2 : i + 2 < s.length
  · rw [quoteFrom_of_lt h2] at hbody
    obtain ⟨rfl, rfl⟩ := append_quote_inj (quote_notMem_segment hs _) (quote_notMem_of_isArrow ha)
      hbody
    refine ⟨?_, ha⟩
    by_contra h3
    rw [textFrom_eq h2, quoteFrom_of_le (by omega), List.append_nil] at hq
    exact quote_notMem_segment hs _ hq
  · rw [quoteFrom_of_le (by omega), List.append_nil] at hbody
    exact absurd (hbody ▸ by simp) (quote_notMem_segment hs (i + 1))

/-- **What is read behind a quote** is the rule that ends at the first arrow. -/
theorem readRule?_textFrom (h : firstEnd? s i = some j) :
    readRule? (textFrom s i) = some
      { closing (segment s (j + 1)) (segment s (j + 2)) (textFrom s (j + 3)) with
        pattern := joined s i j } := by
  obtain ⟨hij, hj, hmin⟩ := firstEnd?_eq_some_iff.mp h
  have hlen := hj.1
  clear h
  induction hij using Nat.decreasingInduction with
  | self =>
      rw [textFrom_eq (by omega), quoteFrom_of_lt (by omega),
        readRule?_append_quote (quote_notMem_segment hs _), readClosing?_of_endsPattern hs hj,
        joined_self (by omega)]
  | of_succ k hk ih =>
      rw [textFrom_eq (by omega), quoteFrom_of_lt (by omega),
        readRule?_append_quote (quote_notMem_segment hs _),
        readClosing?_of_not_endsPattern hs (by omega) (hmin k le_rfl hk),
        ih fun l hl => hmin l (by omega), joined_of_lt hk (by omega)]
      rfl

/-- Nothing is read behind a quote if no arrow follows. -/
theorem readRule?_textFrom_eq_none (h : firstEnd? s i = none) :
    readRule? (textFrom s i) = none := by
  rw [firstEnd?_eq_none_iff] at h
  induction hn : s.length - i generalizing i with
  | zero =>
      rw [textFrom, List.drop_eq_nil_of_le (by omega)]
      rfl
  | succ n ih =>
      have hi : i < s.length := by omega
      have hrest := ih (i := i + 1) (fun j hj => h j (by omega)) (by omega)
      rw [textFrom_eq hi]
      by_cases hlast : i + 1 < s.length
      · rw [quoteFrom_of_lt hlast, readRule?_append_quote (quote_notMem_segment hs _),
          readClosing?_of_not_endsPattern hs hlast (h i le_rfl), hrest]
        rfl
      · rw [quoteFrom_of_le (by omega), List.append_nil, readRule?_eq_none_iff]
        intro p after hp
        exact absurd (hp ▸ by simp) (quote_notMem_segment hs i)

/-- **Reading and scanning agree** from any segment on. -/
theorem readRules_quoteFrom (i : ℕ) : readRules (quoteFrom s i) = scanFrom s i := by
  induction i using scanFrom.induct (s := s) with
  | case1 i j h ih =>
      obtain ⟨hij, hj, -⟩ := firstEnd?_eq_some_iff.mp h
      have hlen := hj.1
      have hflags : (textFrom s (j + 3)).takeWhile isFlagLetter
          = (segment s (j + 3)).takeWhile isFlagLetter := by
        rw [textFrom_eq hlen]
        by_cases hlast : j + 3 + 1 < s.length
        · rw [quoteFrom_of_lt hlast, takeWhile_append_quote]
        · rw [quoteFrom_of_le (by omega), List.append_nil]
      have hrest : readRules (textFrom s (j + 3)) = scanFrom s (j + 4) := by
        rw [textFrom_eq hlen, readRules_append (quote_notMem_segment hs _), ← ih]
      rw [scanFrom, h, quoteFrom_of_lt (by omega), readRules_quote, readRule?_textFrom hs h]
      simp only [closing, readRules_dropBreak, readRules_dropWhile_letters, hrest]
      simp only [Reading.rule, ruleAt, hflags, filter_letters_of_isArrow hj.2]
  | case2 i h =>
      rw [scanFrom, h]
      by_cases hi : i < s.length
      · rw [quoteFrom_of_lt hi, readRules_quote, readRule?_textFrom_eq_none hs h]
      · rw [quoteFrom_of_le (by omega), readRules]

end

/-- If no rule can be read behind a quote, none can be read behind a later one. -/
lemma readRule?_eq_none_of_suffix {cs tail : List Char} (h : readRule? cs = none)
    (ht : tail <:+ cs) : readRule? tail = none := by
  obtain ⟨before, rfl⟩ := ht
  rw [readRule?_eq_none_iff] at h ⊢
  rintro p after rfl
  exact h (before ++ p) after (by simp)

/-- **Reading is scanning.** -/
theorem readAll_eq_scan (text : String) : readAll text = scan text := by
  set s := text.toList.splitOn '"' with hdef
  have hs : ∀ x ∈ s, '"' ∉ x := fun x => quote_notMem_of_mem_splitOn
  have hlen : 0 < s.length := List.length_pos_iff.mpr (List.splitOn_ne_nil _ _)
  have htext : text.toList = textFrom s 0 := by
    rw [textFrom, List.drop_zero, hdef, List.intercalate_splitOn]
  rw [readAll, scan, ← hdef, htext, textFrom_eq hlen, readRules_append (quote_notMem_segment hs 0),
    readRules_quoteFrom hs]

end Scratchpad.Rule
