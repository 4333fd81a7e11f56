import Scratchpad.Proofs.Rule.RoundTrip

/-!
# Writing on at the end of a rule file

A rule is finished once the quote behind its replacement has been written.  What is written later
can still add flags to the last rule, but only with letters that follow it directly; nothing else
changes a rule that has been read.

* `readRule?_append` — a rule behind its opening quote is read again in a longer text.
* `readRules_prefix_append` — the rules of a text come first among those of a longer one.
* **`readAll_prefix_readAll_append`** — finished rules stay, as long as no letter is added to them.
-/

namespace Scratchpad.Rule

section

variable {cs s : List Char} {r : Reading}

/-- Flags end where they ended if no letter is added. -/
lemma takeWhile_append_of_no_letter (cs : List Char) (hs : s.takeWhile isFlagLetter = []) :
    (cs ++ s).takeWhile isFlagLetter = cs.takeWhile isFlagLetter := by
  rw [List.takeWhile_append, hs, List.append_nil]
  split
  · next hlen => exact ((List.takeWhile_prefix _).eq_of_length hlen).symm
  · rfl

/-- Behind the quote of a replacement there may be letters and a line break before the text goes
on. -/
lemma readRules_closing_rest_append (a q tail s : List Char) :
    readRules ((closing a q tail).rest ++ s) = readRules (tail ++ s) := by
  obtain ⟨b, hb, hrest⟩ := exists_isBreak_append_dropBreak (tail.dropWhile isFlagLetter)
  have hletters : '"' ∉ tail.takeWhile isFlagLetter :=
    quote_notMem_of_isLetters fun c hc => List.mem_takeWhile_imp hc
  have htail : tail = tail.takeWhile isFlagLetter ++ (b ++ (closing a q tail).rest) := by
    conv_lhs => rw [← List.takeWhile_append_dropWhile (p := isFlagLetter) (l := tail), hrest]
    rfl
  conv_rhs => rw [htail]
  rw [List.append_assoc, List.append_assoc, readRules_append hletters,
    readRules_append (quote_notMem_of_isBreak hb)]

/-- **A rule that has been read is read again**, and with the same text behind it. -/
lemma readRule?_append (h : readRule? cs = some r) (hs : s.takeWhile isFlagLetter = []) :
    ∃ r', readRule? (cs ++ s) = some r' ∧ r'.rule = r.rule ∧
      readRules r'.rest = readRules (r.rest ++ s) := by
  obtain ⟨p, after, r₀, rfl, hclosing, rfl, hlazy⟩ := readRule?_eq_some_iff.mp h
  -- no quote of the pattern could have ended it, whatever had followed
  have hpattern := not_closing_of_readRule? hclosing hlazy
  obtain ⟨a, q, tail, ha, hq, rfl, rfl⟩ := readClosing?_eq_some_iff.mp hclosing
  have hclosing' := readClosing?_eq_some_iff.mpr ⟨a, q, tail ++ s, ha, hq, rfl, rfl⟩
  have hread := readRule?_eq_some_iff.mpr ⟨p, _, _, rfl, hclosing', rfl, fun p₁ p₂ hp =>
    readClosing?_eq_none_of_writable hpattern hp _⟩
  refine ⟨{ closing a q (tail ++ s) with pattern := p }, by simpa using hread, ?_, ?_⟩
  · simp only [Reading.rule, closing, takeWhile_append_of_no_letter tail hs]
  · calc readRules (closing a q (tail ++ s)).rest
      _ = readRules (tail ++ s) := by
          simp only [closing, readRules_dropBreak, readRules_dropWhile_letters]
      _ = readRules ((closing a q tail).rest ++ s) :=
          (readRules_closing_rest_append a q tail s).symm

/-- **The rules of a text come first** among those of a text that goes on. -/
theorem readRules_prefix_append (cs : List Char) (hs : s.takeWhile isFlagLetter = []) :
    readRules cs <+: readRules (cs ++ s) := by
  induction cs using readRules.induct with
  | case1 => simp [readRules]
  | case2 cs r hr ih =>
      obtain ⟨r', hr', hrule, hrest⟩ := readRule?_append hr hs
      rw [List.cons_append, readRules_quote, readRules_quote, hr, hr']
      dsimp only
      rw [hrule, hrest]
      exact (List.prefix_cons_inj _).mpr ih
  | case3 cs hnone =>
      rw [readRules_quote, hnone]
      exact List.nil_prefix
  | case4 c cs hc ih =>
      rw [List.cons_append, readRules, if_neg hc, readRules, if_neg hc]
      exact ih

end

/-- **Finished rules stay.**  Whatever is written behind a text, its rules are still read first, as
long as what is added does not begin with a letter, which the last of them would take as a flag. -/
theorem readAll_prefix_readAll_append {added : String}
    (h : ∀ c ∈ added.toList.head?, isFlagLetter c = false) (text : String) :
    readAll text <+: readAll (text ++ added) := by
  have hletters : added.toList.takeWhile isFlagLetter = [] := by
    cases hadded : added.toList with
    | nil => rfl
    | cons c cs =>
        rw [hadded] at h
        simp [h c rfl]
  rw [readAll, readAll, String.toList_append]
  exact readRules_prefix_append text.toList hletters

/-- A unit whose replacement is still open is completed, and the rule before it stays. -/
theorem readAll_prefix_completed :
    let text := "\"a\"->\"b\"\n\"c\"->\"d"
    let added := "\"i\r\n"
    (∀ c ∈ added.toList.head?, isFlagLetter c = false) ∧ readAll text = [⟨"a", "", "b", ""⟩] ∧
      readAll (text ++ added) = [⟨"a", "", "b", ""⟩, ⟨"c", "", "d", "i"⟩] ∧
      readAll text <+: readAll (text ++ added) := by
  intro text added
  have hquote : ∀ c ∈ added.toList.head?, isFlagLetter c = false := by
    simp [added, isFlagLetter]
  exact ⟨hquote, by decide +kernel, by decide +kernel, readAll_prefix_readAll_append hquote text⟩

/-- A letter behind the last rule becomes a flag of it. -/
example : readAll ("\"a\"->\"b\"" ++ "x") = [⟨"a", "", "b", "x"⟩] := by decide +kernel

end Scratchpad.Rule
