import Scratchpad.Proofs.Rule.Unit

/-!
# Writing rules and reading them back

Nothing is escaped in a written rule, so not every rule survives being written: its pattern must
not hold the end of a pattern, nor its replacement a quote.  `Writable` says exactly which rules
do.

* `Writable` — the rules that can be read back.
* `writable_of_mem_readRules` — the reader produces no other rules.
* `readRules_describe_append` — a writable rule is read back, whatever follows it.
* `writeAll` — a rule file with the given rules, one or more line breaks apart.
* **`readAll_writeAll_iff_writable`** — the round trip, on exactly the writable rules.
-/

namespace Scratchpad.Rule

/-! ## Which rules can be read back -/

/-- The end of a pattern as it stands in a text: its closing quote, an arrow, and the opening quote
of the replacement. -/
def IsClosing (s : List Char) : Prop := ∃ a, IsArrow a ∧ s = '"' :: (a ++ ['"'])

/-- A rule can be read back if its flags are letters, its replacement holds no quote, and its
pattern, closing quote included, holds no end of a pattern. -/
structure Writable (r : Rule) : Prop where
  patternFlags : IsLetters r.patternFlags.toList
  replacementFlags : IsLetters r.replacementFlags.toList
  replacement : '"' ∉ r.replacement.toList
  pattern : ∀ s, IsClosing s → ¬ s <:+: r.pattern.toList ++ ['"']

/-- The end of a pattern lies inside a quoted text exactly if an arrow and a quote follow one of
its quotes. -/
lemma exists_closing_iff {p : List Char} :
    (∃ s, IsClosing s ∧ s <:+: p ++ ['"']) ↔
      ∃ p₁ p₂ a body, p = p₁ ++ '"' :: p₂ ∧ IsArrow a ∧ p₂ ++ ['"'] = a ++ '"' :: body := by
  constructor
  · rintro ⟨_, ⟨a, ha, rfl⟩, u, v, huv⟩
    simp only [List.cons_append, List.append_assoc, List.nil_append] at huv
    rcases List.eq_nil_or_concat v with rfl | ⟨v, c, rfl⟩
    · refine ⟨u, a, a, [], ?_, ha, rfl⟩
      rw [← List.cons_append, ← List.append_assoc] at huv
      exact (List.append_inj_left' huv rfl).symm
    · rw [List.concat_eq_append, ← List.cons_append, ← List.append_assoc, ← List.cons_append,
        ← List.append_assoc] at huv
      obtain ⟨hp, hc⟩ := List.append_inj' huv rfl
      refine ⟨u, a ++ '"' :: v, a, v ++ ['"'], by rw [← hp]; simp, ha, by simp⟩
  · rintro ⟨p₁, p₂, a, body, rfl, ha, h⟩
    refine ⟨'"' :: (a ++ ['"']), ⟨a, ha, rfl⟩, p₁, body, ?_⟩
    simp [h]

/-- In a writable rule no quote of the pattern can be taken for its end, whatever stands behind
the closing quote. -/
lemma readClosing?_eq_none_of_writable {p p₁ p₂ : List Char}
    (hp : ∀ s, IsClosing s → ¬ s <:+: p ++ ['"']) (h : p = p₁ ++ '"' :: p₂) (after : List Char) :
    readClosing? (p₂ ++ '"' :: after) = none := by
  refine readClosing?_eq_none_iff.mpr fun a body ha hbody => ?_
  exfalso
  have hnone : ¬ ∃ s, IsClosing s ∧ s <:+: p ++ ['"'] := fun ⟨s, hs, hin⟩ => hp s hs hin
  rw [exists_closing_iff] at hnone
  rcases append_quote_cases hbody with ⟨rfl, -⟩ | ⟨u, rfl, -⟩ | ⟨u, rfl, -⟩
  · exact hnone ⟨p₁, p₂, p₂, [], h, ha, rfl⟩
  · exact absurd (by simp) (quote_notMem_of_isArrow ha)
  · exact hnone ⟨p₁, _, a, u ++ ['"'], h, ha, by simp⟩

/-! ## The reader produces writable rules -/

/-- The pattern that was read holds no end of a pattern, for there it would have ended. -/
lemma not_closing_of_readRule? {p after : List Char} {r : Reading}
    (hr : readClosing? after = some r)
    (hlazy : ∀ p₁ p₂, p = p₁ ++ '"' :: p₂ → readClosing? (p₂ ++ '"' :: after) = none) :
    ∀ s, IsClosing s → ¬ s <:+: p ++ ['"'] := by
  intro s hs hin
  obtain ⟨p₁, p₂, a, body, hp, ha, h⟩ := exists_closing_iff.mp ⟨s, hs, hin⟩
  obtain ⟨a', q, tail, -, -, rfl, -⟩ := readClosing?_eq_some_iff.mp hr
  have hnone := readClosing?_eq_none_iff.mp (hlazy p₁ p₂ hp) a
    (body ++ (a' ++ '"' :: (q ++ '"' :: tail))) ha (by
      rw [← List.singleton_append, ← List.append_assoc, h]; simp)
  exact hnone (by simp)

lemma writable_of_readRule? {cs : List Char} {r : Reading} (h : readRule? cs = some r) :
    r.rule.Writable := by
  obtain ⟨p, after, r', -, hcl, rfl, hlazy⟩ := readRule?_eq_some_iff.mp h
  have hpat := not_closing_of_readRule? hcl hlazy
  obtain ⟨a, q, tail, -, hq, -, rfl⟩ := readClosing?_eq_some_iff.mp hcl
  exact
    { patternFlags := fun c hc => List.mem_takeWhile_imp (by simpa [Reading.rule, closing] using hc)
      replacementFlags := fun c hc =>
        List.mem_takeWhile_imp (by simpa [Reading.rule, closing] using hc)
      replacement := by simpa [Reading.rule, closing] using hq
      pattern := by simpa [Reading.rule] using hpat }

/-- **Every rule that is read is writable.** -/
theorem writable_of_mem_readRules {cs : List Char} {r : Rule} (h : r ∈ readRules cs) :
    r.Writable := by
  induction cs using readRules.induct with
  | case1 => simp [readRules] at h
  | case2 cs r' hr' ih =>
      rw [readRules_quote, hr'] at h
      rcases List.mem_cons.mp h with rfl | h
      · exact writable_of_readRule? hr'
      · exact ih h
  | case3 cs hnone => simp [readRules_quote, hnone] at h
  | case4 c cs hc ih =>
      rw [readRules, if_neg hc] at h
      exact ih h

/-! ## A writable rule is read back -/

/-- The written form as characters. -/
lemma toList_describe (r : Rule) :
    r.describe.toList = '"' :: (r.pattern.toList ++ '"' :: (r.patternFlags.toList ++ ['-', '>'] ++
      '"' :: (r.replacement.toList ++ '"' :: r.replacementFlags.toList))) := by
  simp [describe, String.toList_append]

/-- **A writable rule is read back**, and nothing of what follows is taken for a part of it, as
long as no letter follows. -/
theorem readRules_describe_append {r : Rule} (hr : r.Writable) {rest : List Char}
    (h : rest.takeWhile isFlagLetter = []) :
    readRules (r.describe.toList ++ rest) = r :: readRules rest := by
  have harrow : IsArrow (r.patternFlags.toList ++ ['-', '>']) :=
    ⟨_, [], [], hr.patternFlags, .inl rfl, .inl rfl, by simp⟩
  have hclosing := readClosing?_eq_some_iff.mpr
    ⟨_, _, r.replacementFlags.toList ++ rest, harrow, hr.replacement, rfl, rfl⟩
  have hread := readRule?_eq_some_iff.mpr ⟨r.pattern.toList, _, _, rfl, hclosing, rfl,
    fun p₁ p₂ hp => readClosing?_eq_none_of_writable hr.pattern hp _⟩
  have hflags :
      (r.patternFlags.toList ++ ['-', '>']).takeWhile isFlagLetter = r.patternFlags.toList :=
    takeWhile_letters_append hr.patternFlags (by decide)
  have hback : rest.dropWhile isFlagLetter = rest := by
    conv_rhs => rw [← List.takeWhile_append_dropWhile (p := isFlagLetter) (l := rest), h]
    rfl
  rw [toList_describe]
  simp only [List.cons_append, List.append_assoc, List.nil_append] at hread ⊢
  rw [readRules_quote, hread]
  simp only [closing, Reading.rule, takeWhile_letters_append hr.replacementFlags h,
    List.dropWhile_append_of_pos hr.replacementFlags, hback, readRules_dropBreak, hflags,
    String.ofList_toList]

/-! ## Rule files -/

/-- A line break in a file. -/
inductive LineBreak where
  | newline
  | returnNewline
  deriving DecidableEq, Repr

/-- The characters of a line break. -/
def LineBreak.chars : LineBreak → List Char
  | .newline => ['\n']
  | .returnNewline => ['\r', '\n']

/-- One or more line breaks. -/
structure Gap where
  first : LineBreak := .newline
  more : List LineBreak := []
  deriving DecidableEq, Repr

/-- The characters of a gap. -/
def Gap.chars (g : Gap) : List Char := g.first.chars ++ g.more.flatMap LineBreak.chars

/-- The written forms of rules, the `i`-th and the next one separated by `gap i`. -/
def writeAll (gap : ℕ → Gap) : List Rule → String
  | [] => ""
  | [r] => r.describe
  | r :: r' :: rs =>
      r.describe ++ .ofList (gap 0).chars ++ writeAll (fun i => gap (i + 1)) (r' :: rs)

/-- A line break opens no rule, -/
lemma LineBreak.quote_notMem_chars (b : LineBreak) : '"' ∉ b.chars := by
  cases b <;> decide

/-- and ends the flags of the rule in front of it. -/
lemma LineBreak.takeWhile_letters (b : LineBreak) (cs : List Char) :
    (b.chars ++ cs).takeWhile isFlagLetter = [] := by
  cases b <;> rfl

lemma quote_notMem_gap (g : Gap) : '"' ∉ g.chars := by
  simp [Gap.chars, LineBreak.quote_notMem_chars]

lemma takeWhile_letters_gap (g : Gap) (cs : List Char) :
    (g.chars ++ cs).takeWhile isFlagLetter = [] := by
  rw [Gap.chars, List.append_assoc, g.first.takeWhile_letters]

/-- Writable rules are read back from a file, wherever the lines break. -/
lemma readAll_writeAll (gap : ℕ → Gap) {rules : List Rule} (h : ∀ r ∈ rules, r.Writable) :
    readAll (writeAll gap rules) = rules := by
  unfold readAll
  induction rules generalizing gap with
  | nil => simp [writeAll, readRules]
  | cons r rs ih =>
      have hr := h r List.mem_cons_self
      cases rs with
      | nil =>
          have := readRules_describe_append hr (List.takeWhile_nil (p := isFlagLetter))
          simpa [writeAll, readRules] using this
      | cons r' rs =>
          simp only [writeAll, String.toList_append, String.toList_ofList, List.append_assoc]
          rw [readRules_describe_append hr (takeWhile_letters_gap _ _),
            readRules_append (quote_notMem_gap _),
            ih _ fun x hx => h x (List.mem_cons_of_mem _ hx)]

/-- **The round trip.**  Reading produces writable rules only; a list of rules is read back from
its file, wherever the lines break, if and only if all of the rules are writable; and so to write
what was read and to read it again gives the same rules. -/
theorem readAll_writeAll_iff_writable :
    (∀ text, ∀ r ∈ readAll text, r.Writable) ∧
    (∀ gap rules, readAll (writeAll gap rules) = rules ↔ ∀ r ∈ rules, r.Writable) ∧
    (∀ gap text, readAll (writeAll gap (readAll text)) = readAll text) := by
  have himage : ∀ text, ∀ r ∈ readAll text, r.Writable := fun text r hr =>
    writable_of_mem_readRules hr
  refine ⟨himage, fun gap rules => ⟨fun h r hr => ?_, readAll_writeAll gap⟩, fun gap text => ?_⟩
  · rw [← h] at hr
    exact himage _ r hr
  · exact readAll_writeAll gap (himage text)

/-- A pattern may hold quotes and arrows, as long as these do not end it. -/
theorem writable_of_quotes_in_pattern :
    (⟨"say \"hi\" -> now", "i", "b", "g"⟩ : Rule) ∈ readAll "x\"say \"hi\" -> now\"i->\"b\"g" ∧
      Writable ⟨"say \"hi\" -> now", "i", "b", "g"⟩ := by
  have hmem : (⟨"say \"hi\" -> now", "i", "b", "g"⟩ : Rule) ∈
      readAll "x\"say \"hi\" -> now\"i->\"b\"g" := by decide +kernel
  exact ⟨hmem, readAll_writeAll_iff_writable.1 _ _ hmem⟩

end Scratchpad.Rule
