import Mathlib
import Scratchpad.Rule.File

/-!
# The grammar of a rule, and how it is read

A rule in a text is a quote, a pattern, a quote, an *arrow*, a quote, a replacement, a quote and
flag letters.  The arrow takes the pattern's flags, `->`, and a line break on either side of it.
This file says so without reference to the reader and then describes the reader in these terms.

* `IsArrow` — what stands between the pattern and the replacement.
* `readClosing?_eq_some_iff` — behind a closing quote the reader accepts an arrow, a replacement
  without quotes and a closing quote, and nothing else.
* `readRule?_eq_some_iff`, `readRule?_eq_none_iff` — the pattern ends at the first quote behind
  which the rule can be completed, and nothing is read exactly if there is no such quote.
* `readRules_append` — text without quotes is skipped.

No statement here is about a whole file; these are the facts from which those are assembled.
-/

namespace Scratchpad.Rule

/-! ## The grammar -/

/-- No line break, or a single one. -/
def IsBreak (b : List Char) : Prop := b = [] ∨ b = ['\n'] ∨ b = ['\r', '\n']

/-- Flag letters only. -/
def IsLetters (f : List Char) : Prop := ∀ c ∈ f, isFlagLetter c = true

/-- What stands between the closing quote of a pattern and the opening quote of its replacement. -/
def IsArrow (a : List Char) : Prop :=
  ∃ flags b₁ b₂, IsLetters flags ∧ IsBreak b₁ ∧ IsBreak b₂ ∧ a = flags ++ b₁ ++ ['-', '>'] ++ b₂

lemma quote_notMem_of_isLetters {f : List Char} (h : IsLetters f) : '"' ∉ f := by
  intro hq
  exact absurd (h _ hq) (by decide)

lemma quote_notMem_of_isBreak {b : List Char} (h : IsBreak b) : '"' ∉ b := by
  rcases h with rfl | rfl | rfl <;> decide

/-- An arrow holds no quote, so that a text has at most one way to go on with an arrow and a
quote. -/
lemma quote_notMem_of_isArrow {a : List Char} (h : IsArrow a) : '"' ∉ a := by
  obtain ⟨f, b₁, b₂, hf, h₁, h₂, rfl⟩ := h
  simp [quote_notMem_of_isLetters hf, quote_notMem_of_isBreak h₁, quote_notMem_of_isBreak h₂]

/-- The flags of an arrow are the letters it begins with. -/
lemma takeWhile_letters_append {f rest : List Char} (hf : IsLetters f)
    (h : rest.takeWhile isFlagLetter = []) : (f ++ rest).takeWhile isFlagLetter = f := by
  rw [List.takeWhile_append_of_pos hf, h, List.append_nil]

/-- The first quote of a text, if there is one. -/
lemma exists_eq_append_quote {cs : List Char} (h : '"' ∈ cs) :
    ∃ before after, '"' ∉ before ∧ cs = before ++ '"' :: after := by
  obtain ⟨before, after, rfl, hb⟩ := List.eq_append_cons_of_mem h
  exact ⟨before, after, hb, rfl⟩

/-- Without what stands before its first quote, a text begins with that quote. -/
lemma eq_quote_of_dropWhile {cs tail : List Char} {c : Char}
    (h : cs.dropWhile (· != '"') = c :: tail) : c = '"' := by
  have hhead := List.head_dropWhile_not (p := (· != '"')) (l := cs) (by simp [h])
  simpa [h] using hhead

/-- Two cuts of a text at quotes are at the same quote, or one lies behind the other. -/
lemma append_quote_cases {a a' t t' : List Char} (h : a ++ '"' :: t = a' ++ '"' :: t') :
    (a = a' ∧ t = t') ∨ (∃ u, a' = a ++ '"' :: u ∧ t = u ++ '"' :: t') ∨
      ∃ u, a = a' ++ '"' :: u ∧ t' = u ++ '"' :: t := by
  rcases List.append_eq_append_iff.mp h with ⟨u, ha', ht⟩ | ⟨u, ha, ht'⟩
  · cases u with
    | nil => exact .inl ⟨by rw [ha', List.append_nil], (List.cons.inj ht).2⟩
    | cons c u =>
        obtain ⟨rfl, hrest⟩ := List.cons.inj ht
        exact .inr (.inl ⟨u, ha', hrest⟩)
  · cases u with
    | nil => exact .inl ⟨by rw [ha, List.append_nil], (List.cons.inj ht').2.symm⟩
    | cons c u =>
        obtain ⟨rfl, hrest⟩ := List.cons.inj ht'
        exact .inr (.inr ⟨u, ha, hrest⟩)

/-- A text is cut at its first quote in one way only. -/
lemma append_quote_inj {a a' t t' : List Char} (ha : '"' ∉ a) (ha' : '"' ∉ a')
    (h : a ++ '"' :: t = a' ++ '"' :: t') : a = a' ∧ t = t' := by
  rcases append_quote_cases h with heq | ⟨u, rfl, -⟩ | ⟨u, rfl, -⟩
  · exact heq
  · exact absurd (by simp) ha'
  · exact absurd (by simp) ha

/-- What stands in front of the first quote stands in front of any quote. -/
lemma prefix_of_append_quote {a a' t t' : List Char} (ha : '"' ∉ a)
    (h : a ++ '"' :: t = a' ++ '"' :: t') : a <+: a' := by
  rcases append_quote_cases h with ⟨rfl, -⟩ | ⟨u, rfl, -⟩ | ⟨u, rfl, -⟩
  · exact List.prefix_rfl
  · exact List.prefix_append a _
  · exact absurd (by simp) ha

/-! ## Line breaks -/

/-- Dropping a line break takes away nothing but a line break. -/
lemma exists_isBreak_append_dropBreak (cs : List Char) :
    ∃ b, IsBreak b ∧ cs = b ++ dropBreak cs := by
  unfold dropBreak
  split
  · exact ⟨['\r', '\n'], by simp [IsBreak], rfl⟩
  · exact ⟨['\n'], by simp [IsBreak], rfl⟩
  · exact ⟨[], by simp [IsBreak], rfl⟩

/-- All of a line break is dropped, provided no line break follows that could be taken with it. -/
lemma dropBreak_append {b : List Char} (hb : IsBreak b) {c : Char} (hn : c ≠ '\n') (hr : c ≠ '\r')
    (cs : List Char) : dropBreak (b ++ c :: cs) = c :: cs := by
  rcases hb with rfl | rfl | rfl
  · simp only [List.nil_append]
    unfold dropBreak
    split
    · simp_all
    · simp_all
    · rfl
  · rfl
  · rfl

/-! ## Behind the pattern -/

/-- An arrow and the quote behind it are read if and only if they are there. -/
lemma afterArrow?_eq_some_iff {cs body : List Char} :
    afterArrow? (cs.dropWhile isFlagLetter) = some body
      ↔ ∃ a, IsArrow a ∧ cs = a ++ '"' :: body := by
  constructor
  · intro h
    obtain ⟨b₁, hb₁, h₁⟩ := exists_isBreak_append_dropBreak (cs.dropWhile isFlagLetter)
    unfold afterArrow? at h
    split at h
    · next tail htail =>
      obtain ⟨b₂, hb₂, h₂⟩ := exists_isBreak_append_dropBreak tail
      split at h
      · next body' hbody =>
        cases h
        refine ⟨cs.takeWhile isFlagLetter ++ b₁ ++ ['-', '>'] ++ b₂,
          ⟨_, b₁, b₂, fun c hc => List.mem_takeWhile_imp hc, hb₁, hb₂, rfl⟩, ?_⟩
        rw [htail, h₂, hbody] at h₁
        calc cs = cs.takeWhile isFlagLetter ++ cs.dropWhile isFlagLetter :=
              List.takeWhile_append_dropWhile.symm
          _ = _ := by rw [h₁]; simp
      · cases h
    · cases h
  · rintro ⟨a, ⟨f, b₁, b₂, hf, h₁, h₂, rfl⟩, rfl⟩
    have hdrop : (f ++ b₁ ++ ['-', '>'] ++ b₂ ++ '"' :: body).dropWhile isFlagLetter
        = b₁ ++ '-' :: '>' :: (b₂ ++ '"' :: body) := by
      simp only [List.append_assoc]
      rw [List.dropWhile_append_of_pos hf]
      rcases h₁ with rfl | rfl | rfl <;> rfl
    rw [hdrop, afterArrow?, dropBreak_append h₁ (by decide) (by decide)]
    simp only [dropBreak_append h₂ (c := '"') (by decide) (by decide)]

/-- What is read behind a pattern: the arrow `a`, the replacement `q`, and flags in front of
`tail`. -/
def closing (a q tail : List Char) : Reading where
  pattern := []
  patternFlags := a.takeWhile isFlagLetter
  replacement := q
  replacementFlags := tail.takeWhile isFlagLetter
  rest := dropBreak (tail.dropWhile isFlagLetter)

/-- The flags of an arrow do not depend on what follows its quote. -/
lemma takeWhile_append_quote (a t : List Char) :
    (a ++ '"' :: t).takeWhile isFlagLetter = a.takeWhile isFlagLetter := by
  induction a with
  | nil => rfl
  | cons c cs ih =>
      simp only [List.cons_append, List.takeWhile_cons]
      split
      · rw [ih]
      · rfl

/-- **Behind a closing quote** the reader accepts an arrow, a replacement in quotes, and nothing
else. -/
theorem readClosing?_eq_some_iff {cs : List Char} {r : Reading} :
    readClosing? cs = some r ↔ ∃ a q tail, IsArrow a ∧ '"' ∉ q ∧
      cs = a ++ '"' :: (q ++ '"' :: tail) ∧ r = closing a q tail := by
  constructor
  · intro h
    unfold readClosing? at h
    split at h
    · cases h
    · next body hbody =>
      obtain ⟨a, ha, rfl⟩ := afterArrow?_eq_some_iff.mp hbody
      split at h
      · cases h
      · next c tail htail =>
        have hq : '"' ∉ body.takeWhile (· != '"') := fun hq => by
          simpa using List.mem_takeWhile_imp hq
        obtain rfl := eq_quote_of_dropWhile htail
        cases h
        refine ⟨a, _, tail, ha, hq, ?_, ?_⟩
        · rw [← htail, List.takeWhile_append_dropWhile]
        · simp only [closing, takeWhile_append_quote]
  · rintro ⟨a, q, tail, ha, hq, rfl, rfl⟩
    have hne : ∀ c ∈ q, (c != '"') = true := fun c hc => by
      simp only [bne_iff_ne, ne_eq]
      rintro rfl
      exact hq hc
    unfold readClosing?
    rw [afterArrow?_eq_some_iff.mpr ⟨a, ha, rfl⟩]
    simp only [List.dropWhile_append_of_pos hne, List.takeWhile_append_of_pos hne,
      takeWhile_append_quote]
    simp [closing]

/-- What is read behind a closing quote has no pattern. -/
lemma pattern_of_readClosing? {cs : List Char} {r : Reading} (h : readClosing? cs = some r) :
    r.pattern = [] := by
  obtain ⟨a, q, tail, -, -, -, rfl⟩ := readClosing?_eq_some_iff.mp h
  rfl

/-- So a pattern can be closed exactly where an arrow, a quote and somewhere another quote
follow. -/
lemma readClosing?_eq_none_iff {cs : List Char} :
    readClosing? cs = none ↔ ∀ a body, IsArrow a → cs = a ++ '"' :: body → '"' ∉ body := by
  constructor
  · rintro h a body ha rfl hq
    obtain ⟨q, tail, hq', rfl⟩ := exists_eq_append_quote hq
    have := readClosing?_eq_some_iff.mpr ⟨a, q, tail, ha, hq', rfl, rfl⟩
    rw [h] at this
    cases this
  · intro h
    by_contra hne
    obtain ⟨r, hr⟩ := Option.ne_none_iff_exists'.mp hne
    obtain ⟨a, q, tail, ha, -, rfl, -⟩ := readClosing?_eq_some_iff.mp hr
    exact h a _ ha rfl (by simp)

/-! ## The pattern -/

/-- A quote ends the pattern if the rule can be completed behind it, and else belongs to it. -/
lemma readRule?_cons_quote (cs : List Char) :
    readRule? ('"' :: cs) = match readClosing? cs with
      | some r => some r
      | none => (readRule? cs).map fun r => { r with pattern := '"' :: r.pattern } := by
  cases h : readClosing? cs with
  | none => simp [readRule?, h]
  | some r => simp [readRule?, h]

/-- Any other character belongs to the pattern. -/
lemma readRule?_cons_of_ne {c : Char} (hc : c ≠ '"') (cs : List Char) :
    readRule? (c :: cs) = (readRule? cs).map fun r => { r with pattern := c :: r.pattern } := by
  rw [readRule?, if_neg hc]

/-- Up to the first quote all characters belong to the pattern. -/
lemma readRule?_append_quote {p : List Char} (hp : '"' ∉ p) (cs : List Char) :
    readRule? (p ++ '"' :: cs) = match readClosing? cs with
      | some r => some { r with pattern := p }
      | none => (readRule? cs).map fun r => { r with pattern := p ++ '"' :: r.pattern } := by
  induction p with
  | nil =>
      rw [List.nil_append, readRule?_cons_quote]
      split
      · next r hr => rw [← pattern_of_readClosing? hr]
      · rfl
  | cons c p ih =>
      rw [List.cons_append, readRule?_cons_of_ne (List.ne_of_not_mem_cons hp).symm,
        ih (List.not_mem_of_not_mem_cons hp)]
      split
      · rfl
      · rw [Option.map_map]
        rfl

/-- **Nothing is read** behind an opening quote exactly if the rule can be completed behind no
later quote. -/
theorem readRule?_eq_none_iff {cs : List Char} :
    readRule? cs = none ↔ ∀ p after, cs = p ++ '"' :: after → readClosing? after = none := by
  induction cs with
  | nil => simp [readRule?]
  | cons c cs ih =>
      by_cases hc : c = '"'
      · subst hc
        rw [readRule?_cons_quote]
        constructor
        · intro h p after hp
          split at h
          · cases h
          · next hnone =>
            rw [Option.map_eq_none_iff, ih] at h
            cases p with
            | nil => simpa [← (List.cons.inj hp).2] using hnone
            | cons c p => exact h p after (List.cons.inj hp).2
        · intro h
          rw [h [] cs rfl]
          simp only [Option.map_eq_none_iff, ih]
          rintro p after rfl
          exact h ('"' :: p) after rfl
      · rw [readRule?_cons_of_ne hc, Option.map_eq_none_iff, ih]
        constructor
        · intro h p after hp
          cases p with
          | nil => exact absurd (List.cons.inj hp).1 hc
          | cons c p => exact h p after (List.cons.inj hp).2
        · rintro h p after rfl
          exact h (c :: p) after rfl

/-- **A rule is read** up to the first quote behind which it can be completed. -/
theorem readRule?_eq_some_iff {cs : List Char} {r : Reading} :
    readRule? cs = some r ↔ ∃ p after r', cs = p ++ '"' :: after ∧ readClosing? after = some r' ∧
      r = { r' with pattern := p } ∧
      ∀ p₁ p₂, p = p₁ ++ '"' :: p₂ → readClosing? (p₂ ++ '"' :: after) = none := by
  induction cs generalizing r with
  | nil => simp [readRule?]
  | cons c cs ih =>
      by_cases hc : c = '"'
      · subst hc
        rw [readRule?_cons_quote]
        constructor
        · intro h
          split at h
          · next r' hr' =>
            cases h
            exact ⟨[], cs, r, rfl, hr', by rw [← pattern_of_readClosing? hr'], by simp⟩
          · next hnone =>
            obtain ⟨r', hr', rfl⟩ := Option.map_eq_some_iff.mp h
            obtain ⟨p, after, r'', rfl, hcl, rfl, hlazy⟩ := ih.mp hr'
            refine ⟨'"' :: p, after, r'', rfl, hcl, rfl, fun p₁ p₂ hp => ?_⟩
            cases p₁ with
            | nil => rwa [← (List.cons.inj hp).2]
            | cons c p₁ => exact hlazy p₁ p₂ (List.cons.inj hp).2
        · rintro ⟨p, after, r', hcs, hcl, rfl, hlazy⟩
          cases p with
          | nil =>
              obtain rfl := (List.cons.inj hcs).2
              rw [hcl, ← pattern_of_readClosing? hcl]
          | cons c p =>
              rw [List.cons_append] at hcs
              obtain ⟨rfl, rfl⟩ := List.cons.inj hcs
              rw [hlazy [] p rfl]
              refine Option.map_eq_some_iff.mpr ⟨{ r' with pattern := p }, ih.mpr ?_, rfl⟩
              exact ⟨p, after, r', rfl, hcl, rfl,
                fun p₁ p₂ hp => hlazy ('"' :: p₁) p₂ (by rw [hp]; rfl)⟩
      · rw [readRule?_cons_of_ne hc, Option.map_eq_some_iff]
        constructor
        · rintro ⟨r', hr', rfl⟩
          obtain ⟨p, after, r'', rfl, hcl, rfl, hlazy⟩ := ih.mp hr'
          refine ⟨c :: p, after, r'', rfl, hcl, rfl, fun p₁ p₂ hp => ?_⟩
          cases p₁ with
          | nil => exact absurd (List.cons.inj hp).1 hc
          | cons c p₁ => exact hlazy p₁ p₂ (List.cons.inj hp).2
        · rintro ⟨p, after, r', hcs, hcl, rfl, hlazy⟩
          cases p with
          | nil => exact absurd (List.cons.inj hcs).1 hc
          | cons c p =>
              rw [List.cons_append] at hcs
              obtain ⟨rfl, rfl⟩ := List.cons.inj hcs
              exact ⟨{ r' with pattern := p }, ih.mpr ⟨p, after, r', rfl, hcl, rfl,
                fun p₁ p₂ hp => hlazy (c :: p₁) p₂ (by rw [hp]; rfl)⟩, rfl⟩

/-! ## Between the rules -/

/-- At a quote a rule is read, and what follows it is read on.  If none can be read, nothing is
read behind it either. -/
lemma readRules_quote (cs : List Char) :
    readRules ('"' :: cs) = match readRule? cs with
      | some r => r.rule :: readRules r.rest
      | none => [] := by
  rw [readRules, if_pos rfl]
  split <;> simp_all

/-- Text without quotes is skipped. -/
lemma readRules_append {gap : List Char} (h : '"' ∉ gap) (cs : List Char) :
    readRules (gap ++ cs) = readRules cs := by
  induction gap with
  | nil => rfl
  | cons c gap ih =>
      rw [List.cons_append, readRules, if_neg (List.ne_of_not_mem_cons h).symm]
      exact ih (List.not_mem_of_not_mem_cons h)

/-- The line break behind a rule makes no difference to what is read on. -/
lemma readRules_dropBreak (cs : List Char) : readRules (dropBreak cs) = readRules cs := by
  obtain ⟨b, hb, h⟩ := exists_isBreak_append_dropBreak cs
  conv_rhs => rw [h, readRules_append (quote_notMem_of_isBreak hb)]

/-- Nor do flag letters. -/
lemma readRules_dropWhile_letters (cs : List Char) :
    readRules (cs.dropWhile isFlagLetter) = readRules cs := by
  conv_rhs => rw [← List.takeWhile_append_dropWhile (p := isFlagLetter) (l := cs),
    readRules_append (quote_notMem_of_isLetters fun c hc => List.mem_takeWhile_imp hc)]

end Scratchpad.Rule
