import Scratchpad.Proofs.Rule.RoundTrip

/-!
# Comments in a rule file

What stands between two rules is skipped, but where a rule opens is not a matter of lines: it opens
at the next quote.  So a comment may say anything but what looks like the end of a pattern, except
that a quote in it opens the rule below.

* `Comment`, `Entry`, `writeEntries` — a rule file with one rule a line, and comments.
* `readAll_lines` — a file is read line by line if its lines are rules, or hold no quote.
* `readRules_eq_nil_of_no_arrow` — behind the last rule a comment may hold quotes.
* `pattern_ne_of_readRule?` — a rule that opens in front of another one has another pattern.
* **`readAll_writeEntries_eq_iff`** — comments change nothing exactly if those in front of a rule
  hold no quote.
-/

namespace Scratchpad.Rule

/-! ## Files with comments -/

/-- There is an arrow in the text. -/
def HoldsArrow (cs : List Char) : Prop := ['-', '>'] <:+: cs

instance : DecidablePred HoldsArrow := fun _ =>
  inferInstanceAs (Decidable (['-', '>'] <:+: _))

/-- A comment: it begins with `#`, has no arrow in it, and ends with a line break. -/
structure Comment where
  text : String
  lineBreak : LineBreak := .newline
  no_arrow : ¬ HoldsArrow text.toList

/-- The characters of a comment. -/
def Comment.chars (c : Comment) : List Char := '#' :: (c.text.toList ++ c.lineBreak.chars)

/-- The characters of comments, one below the other. -/
def commentChars (comments : List Comment) : List Char := comments.flatMap Comment.chars

/-- A rule on a line of its own, and the comments above it. -/
structure Entry where
  comments : List Comment := []
  rule : Rule
  lineBreak : LineBreak := .newline

namespace Entry

/-- The characters of the comments and of the rule's line. -/
def chars (e : Entry) : List Char :=
  commentChars e.comments ++ (e.rule.describe.toList ++ e.lineBreak.chars)

/-- The rule's line without the comments above it. -/
def bare (e : Entry) : Entry := { e with comments := [] }

end Entry

/-- A rule file: its entries, and the comments below the last of them. -/
def writeEntries (entries : List Entry) (below : List Comment) : String :=
  .ofList (entries.flatMap Entry.chars ++ commentChars below)

/-! ## No arrow in a comment -/

section

variable {a w x y : List Char} {c : Char}

lemma HoldsArrow.mono (h : HoldsArrow x) (hxy : x <:+: y) : HoldsArrow y := h.trans hxy

lemma IsArrow.holdsArrow (ha : IsArrow a) : HoldsArrow a := by
  obtain ⟨f, b₁, b₂, -, -, -, rfl⟩ := ha
  exact ⟨f ++ b₁, b₂, rfl⟩

/-- A part of a text lies on one side of a character that it does not hold. -/
lemma infix_of_infix_append_cons (hc : c ∉ w) (h : w <:+: x ++ c :: y) : w <:+: x ∨ w <:+: y := by
  obtain ⟨p, q, hpq⟩ := h
  rcases List.append_eq_append_iff.mp hpq with ⟨t, rfl, -⟩ | ⟨t, hpw, ht⟩
  · exact .inl ⟨p, t, rfl⟩
  · cases t with
    | nil => exact .inl ⟨p, [], by rw [hpw]; simp⟩
    | cons d t =>
        obtain ⟨rfl, rfl⟩ := List.cons.inj ht
        rcases List.append_eq_append_iff.mp hpw with ⟨u, -, hw⟩ | ⟨u, -, hu⟩
        · exact absurd (hw ▸ by simp) hc
        · cases u with
          | nil =>
              rw [List.nil_append] at hu
              exact absurd (hu ▸ List.mem_cons_self) hc
          | cons d u =>
              obtain ⟨-, rfl⟩ := List.cons.inj hu
              exact .inr ⟨u, q, rfl⟩

/-- An arrow is not taken apart by a comment's `#` or line break. -/
lemma no_arrow_append_cons (hc : c ≠ '-' ∧ c ≠ '>') (hx : ¬ HoldsArrow x)
    (hy : ¬ HoldsArrow y) : ¬ HoldsArrow (x ++ c :: y) := by
  intro h
  have hmem : c ∉ ['-', '>'] := by simp [hc]
  exact (infix_of_infix_append_cons hmem h).elim hx hy

lemma Comment.no_arrow_chars_append (k : Comment) (hx : ¬ HoldsArrow x) :
    ¬ HoldsArrow (k.chars ++ x) := by
  have hline : ¬ HoldsArrow (k.text.toList ++ (k.lineBreak.chars ++ x)) := by
    cases k.lineBreak with
    | newline => exact no_arrow_append_cons (by decide) k.no_arrow hx
    | returnNewline =>
        have hrest : ¬ HoldsArrow ([] ++ '\n' :: x) :=
          no_arrow_append_cons (by decide) (by decide) hx
        exact no_arrow_append_cons (by decide) k.no_arrow hrest
  rw [Comment.chars, List.cons_append, List.append_assoc, ← List.nil_append ('#' :: _)]
  exact no_arrow_append_cons (by decide) (by decide) hline

/-- There is no arrow in comments. -/
lemma no_arrow_commentChars (comments : List Comment) :
    ¬ HoldsArrow (commentChars comments) := by
  induction comments with
  | nil => decide
  | cons k comments ih => exact k.no_arrow_chars_append ih

/-- A comment holds a quote if its text does. -/
lemma quote_mem_chars_iff (k : Comment) : '"' ∈ k.chars ↔ '"' ∈ k.text.toList := by
  simp [Comment.chars, k.lineBreak.quote_notMem_chars]

lemma quote_notMem_commentChars_iff {comments : List Comment} :
    '"' ∉ commentChars comments ↔ ∀ k ∈ comments, '"' ∉ k.text.toList := by
  simp only [commentChars, List.mem_flatMap, quote_mem_chars_iff, not_exists, not_and]

/-! ## What a quote in a comment does -/

/-- Without an arrow nothing is read. -/
lemma readRules_eq_nil_of_no_arrow {cs : List Char} (h : ¬ HoldsArrow cs) :
    readRules cs = [] := by
  induction cs using readRules.induct with
  | case1 => rw [readRules]
  | case2 cs r hr ih =>
      obtain ⟨p, after, r', rfl, hclosing, -, -⟩ := readRule?_eq_some_iff.mp hr
      obtain ⟨a, q, tail, ha, -, rfl, -⟩ := readClosing?_eq_some_iff.mp hclosing
      exact absurd (ha.holdsArrow.mono ⟨'"' :: p ++ ['"'], _, by simp; rfl⟩) h
  | case3 cs hnone => rw [readRules_quote, hnone]
  | case4 c cs hc ih =>
      rw [readRules, if_neg hc]
      exact ih fun hin => h (List.infix_cons hin)

/-- **A rule that opens in front of another one has another pattern**, if there is no arrow between
their quotes. -/
lemma pattern_ne_of_readRule? {p rest : List Char} {r : Reading} (hy : ¬ HoldsArrow y)
    (hp : ∀ s, IsClosing s → ¬ s <:+: p ++ ['"'])
    (h : readRule? (y ++ '"' :: (p ++ '"' :: rest)) = some r) : r.pattern ≠ p := by
  obtain ⟨p', after, r', hcs, hclosing, rfl, -⟩ := readRule?_eq_some_iff.mp h
  intro (hsame : p' = p)
  subst hsame
  obtain ⟨a, q, tail, ha, -, hafter, -⟩ := readClosing?_eq_some_iff.mp hclosing
  have hfree : ∀ t u, after = t ++ '"' :: u → ¬ t <:+: y := by
    intro t u ht hin
    rw [hafter] at ht
    have hpre := prefix_of_append_quote (quote_notMem_of_isArrow ha) ht
    exact hy ((ha.holdsArrow.mono hpre.isInfix).mono hin)
  -- where the pattern would end: in front of the other rule, at its opening quote, or behind that
  rcases append_quote_cases hcs with ⟨rfl, rfl⟩ | ⟨z, hz, hbehind⟩ | ⟨z, rfl, rfl⟩
  · exact hfree _ _ rfl List.infix_rfl
  · have hlen := congrArg List.length hz
    rw [List.length_append, List.length_cons] at hlen
    rcases append_quote_cases hbehind with ⟨rfl, -⟩ | ⟨u, rfl, -⟩ | ⟨u, hu, hend⟩
    · omega
    · rw [List.length_append, List.length_cons] at hlen
      omega
    · rw [hend, readClosing?_eq_none_of_writable hp hu] at hclosing
      cases hclosing
  · exact hfree _ _ rfl ⟨p' ++ ['"'], [], by simp⟩

end

/-! ## Reading a file with comments -/

/-- A rule's line is read, and then what stands below it. -/
lemma readRules_line_append {r : Rule} (hr : r.Writable) (b : LineBreak) (cs : List Char) :
    readRules (r.describe.toList ++ b.chars ++ cs) = r :: readRules cs := by
  rw [List.append_assoc, readRules_describe_append hr (b.takeWhile_letters cs),
    readRules_append b.quote_notMem_chars]

/-- **A file is read line by line** if each of its lines holds no quote, or is the written form of
the rule that is read from it. -/
theorem readAll_lines {lines : List String}
    (h : ∀ l ∈ lines, '"' ∉ l.toList ∨ (readAll l).map describe = [l]) :
    readAll (String.join (lines.map (· ++ "\n"))) = lines.flatMap readAll := by
  have hchars : (String.join (lines.map (· ++ "\n"))).toList
      = lines.flatMap fun l => l.toList ++ LineBreak.newline.chars := by
    rw [String.toList_join, List.flatMap_map]
    simp [String.toList_append, LineBreak.chars]
  rw [readAll, hchars]
  clear hchars
  induction lines with
  | nil => rw [List.flatMap_nil, List.flatMap_nil, readRules]
  | cons l lines ih =>
      obtain ⟨hl, hrest⟩ := List.forall_mem_cons.mp h
      rw [List.flatMap_cons, List.flatMap_cons, ← ih hrest]
      rcases hl with hquote | hwritten
      · have hnone : readAll l = [] := by
          have happend := readRules_append hquote []
          rwa [List.append_nil, readRules] at happend
        rw [hnone, List.append_assoc, readRules_append hquote,
          readRules_append LineBreak.newline.quote_notMem_chars, List.nil_append]
      · obtain ⟨r, hr, rfl⟩ := List.map_eq_singleton_iff.mp hwritten
        have hmem : r ∈ readAll r.describe := hr ▸ List.mem_singleton_self r
        rw [hr, readRules_line_append (writable_of_mem_readRules hmem), List.singleton_append]

/-- A rule is read with comments above it only if these hold no quote. -/
lemma quote_notMem_of_readRules {comments : List Comment} {r : Rule} {rs : List Rule}
    {cs : List Char} (hr : r.Writable)
    (h : readRules (commentChars comments ++ (r.describe.toList ++ cs)) = r :: rs) :
    '"' ∉ commentChars comments := by
  intro hquote
  have harrow := no_arrow_commentChars comments
  obtain ⟨x, y, hx, hxy⟩ := exists_eq_append_quote hquote
  rw [hxy] at h harrow
  have hy : ¬ HoldsArrow y := fun hin => harrow (hin.mono ⟨x ++ ['"'], [], by simp⟩)
  rw [List.append_assoc, readRules_append hx, List.cons_append, readRules_quote, toList_describe]
    at h
  split at h
  · next r' hr' =>
    simp only [List.cons_append, List.append_assoc] at hr'
    have hpattern := pattern_ne_of_readRule? hy hr.pattern hr'
    rw [← (List.cons.inj h).1] at hpattern
    exact hpattern (by simp [Reading.rule])
  · cases h

/-- **The rules of a file with comments** are read exactly if no comment above a rule holds a
quote. -/
lemma readRules_entries_iff {entries : List Entry} (h : ∀ e ∈ entries, e.rule.Writable)
    (below : List Comment) :
    readRules (entries.flatMap Entry.chars ++ commentChars below) = entries.map Entry.rule ↔
      ∀ e ∈ entries, '"' ∉ commentChars e.comments := by
  induction entries with
  | nil => simp [readRules_eq_nil_of_no_arrow (no_arrow_commentChars below)]
  | cons e entries ih =>
      obtain ⟨he, hrest⟩ := List.forall_mem_cons.mp h
      have hchars : (e :: entries).flatMap Entry.chars ++ commentChars below =
          commentChars e.comments ++ (e.rule.describe.toList ++
            (e.lineBreak.chars ++ (entries.flatMap Entry.chars ++ commentChars below))) := by
        simp [Entry.chars]
      rw [hchars, List.map_cons, List.forall_mem_cons, ← ih hrest]
      constructor
      · intro hread
        have hquote := quote_notMem_of_readRules he hread
        rw [readRules_append hquote, ← List.append_assoc, readRules_line_append he] at hread
        exact ⟨hquote, (List.cons.inj hread).2⟩
      · rintro ⟨hquote, hread⟩
        rw [readRules_append hquote, ← List.append_assoc, readRules_line_append he, hread]

/-- A rule that is read back on its own is writable. -/
lemma writable_of_readAll_describe {r : Rule} (h : readAll r.describe = [r]) : r.Writable := by
  have hmem : r ∈ readAll r.describe := by
    rw [h]
    exact List.mem_singleton_self r
  exact writable_of_mem_readRules hmem

/-- **Comments change nothing exactly if those above a rule hold no quote.**  A file of rules that
are read back on their own, one rule a line, has the same rules with and without its comments if
and only if there is no quote in any comment that stands above a rule.  Below the last rule a
comment may hold quotes. -/
theorem readAll_writeEntries_eq_iff {entries : List Entry}
    (h : ∀ e ∈ entries, readAll e.rule.describe = [e.rule]) (below : List Comment) :
    readAll (writeEntries (entries.map Entry.bare) []) = entries.map Entry.rule ∧
      (readAll (writeEntries entries below) = readAll (writeEntries (entries.map Entry.bare) []) ↔
        ∀ e ∈ entries, ∀ k ∈ e.comments, '"' ∉ k.text.toList) := by
  have hwritable : ∀ e ∈ entries, e.rule.Writable := fun e he =>
    writable_of_readAll_describe (h e he)
  have hbare : readAll (writeEntries (entries.map Entry.bare) []) = entries.map Entry.rule := by
    have hrules : (entries.map Entry.bare).map Entry.rule = entries.map Entry.rule := by
      simp [Entry.bare]
    rw [readAll, writeEntries, String.toList_ofList, ← hrules, readRules_entries_iff]
    · simp [Entry.bare, commentChars]
    · simpa [Entry.bare] using hwritable
  refine ⟨hbare, ?_⟩
  rw [hbare, readAll, writeEntries, String.toList_ofList, readRules_entries_iff hwritable]
  simp only [quote_notMem_commentChars_iff]

/-- A comment above a rule may say what it likes without quotes, and one below the rules may quote
the last of them. -/
theorem readAll_writeEntries_quoted_below :
    let cat : Entry :=
      { comments := [⟨" cats first - then > dogs", .newline, by decide⟩]
        rule := ⟨"say \"cat\"", "i", "->", ""⟩ }
    let dog : Entry := { rule := ⟨"dog", "", "", "x"⟩, lineBreak := .returnNewline }
    let below : Comment := ⟨" no more \"dog\"", .newline, by decide⟩
    readAll (writeEntries [cat, dog] [below]) = [cat.rule, dog.rule] := by
  intro cat dog below
  have halone : ∀ e ∈ [cat, dog], readAll e.rule.describe = [e.rule] := by
    simp only [List.forall_mem_cons, List.not_mem_nil, false_implies, implies_true, and_true]
    exact ⟨by decide +kernel, by decide +kernel⟩
  obtain ⟨hbare, hsame⟩ := readAll_writeEntries_eq_iff halone [below]
  rw [hsame.mpr, hbare]
  · rfl
  · simp [cat, dog]

/-- A word in quotes in a comment, and the rule for this word below it: the rule opens in the
comment. -/
theorem readAll_writeEntries_quoted_above :
    let cat : Entry :=
      { comments := [⟨" the word \"cat\"", .newline, by decide⟩], rule := ⟨"cat", "", "dog", ""⟩ }
    (∀ e ∈ [cat], readAll e.rule.describe = [e.rule]) ∧
      writeEntries [cat] [] = "# the word \"cat\"\n\"cat\"->\"dog\"\n" ∧
      readAll (writeEntries [cat.bare] []) = [⟨"cat", "", "dog", ""⟩] ∧
      readAll (writeEntries [cat] []) = [⟨"cat\"\n\"cat", "", "dog", ""⟩] ∧
      readAll (writeEntries [cat] []) ≠ readAll (writeEntries ([cat].map Entry.bare) []) := by
  intro cat
  refine ⟨?_, by decide +kernel, by decide +kernel, by decide +kernel, by decide +kernel⟩
  simp only [List.forall_mem_cons, List.not_mem_nil, false_implies, implies_true, and_true]
  decide +kernel

end Scratchpad.Rule
