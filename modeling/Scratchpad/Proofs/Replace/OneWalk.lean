import Scratchpad.Proofs.Replace.Between

/-!
# Counting and replacing in one walk

A pass counts the matches before it replaces them, and it replaces them in one of two ways: where
the template is a literal text it asks for nothing but the ends of the matches, and otherwise for
their groups, too.  All of this comes to one walk along the matches.

* `CompiledRule.replaceIn` — the number of matches, and the text with all of them replaced, by one
  walk.
* `expand_of_literal?`, `substituteLiteral_eq_substitute` — what is written in the first way.
* **`CompiledRule.replaceIn_eq`** — counting and then replacing is one walk.
* `replaceIn_eq_of_count_eq_zero` — without a match nothing is replaced.
-/

namespace Scratchpad.Replace

open Pattern (Match)

/-- The number of matches in a text, and the text with all of them replaced.  What is written for a
match depends on its groups, whether or not the template refers to any. -/
def CompiledRule.replaceIn (c : CompiledRule) (subject : String) : ℕ × String :=
  let text := subject.toList.toArray
  let found := c.regex.find text
  (found.length, .ofList (substitute text (c.expansion text) 0 found))

/-! ## Templates without groups -/

/-- A template that is a literal text is written as this text, whatever the groups are. -/
lemma expand_of_literal? {t : Template} {literal : List Char} (h : t.literal? = some literal)
    (groupText : ℕ → Option (List Char)) (number? : String → Option ℕ) :
    t.expand groupText number? = literal := by
  induction t generalizing literal with
  | nil => exact Option.some.inj h
  | cons piece t ih =>
      cases piece with
      | group ref => cases h
      | char c =>
          rw [Template.literal?] at h
          split_ifs at h
          obtain ⟨rest, hrest, rfl⟩ := Option.map_eq_some_iff.mp h
          exact congrArg (c :: ·) (ih hrest)

/-- To write the same for every match, its ends are enough. -/
lemma substituteLiteral_eq_substitute (text : Array Char) (literal : List Char) (start : ℕ)
    (ms : List Match) :
    substituteLiteral text literal start (ms.map Match.span)
      = substitute text (fun _ => literal) start ms := by
  induction ms generalizing start with
  | nil => rfl
  | cons m ms ih => rw [List.map_cons, Match.span, substituteLiteral, substitute, ih]

/-! ## One walk -/

namespace CompiledRule

/-- Both ways to replace the matches write what a walk with all groups writes. -/
lemma replaceAll_eq (c : CompiledRule) (subject : String) :
    c.replaceAll subject = (c.replaceIn subject).2 := by
  rw [replaceAll, replaceIn]
  cases hliteral : c.template.literal? with
  | none => rfl
  | some literal =>
      have hwrite : c.expansion subject.toList.toArray = fun _ => literal :=
        funext fun m => expand_of_literal? hliteral _ _
      dsimp only
      rw [Pattern.Regex.findSpans, substituteLiteral_eq_substitute, hwrite]

/-- **Counting and then replacing is one walk**, whichever way the matches are replaced. -/
theorem replaceIn_eq (c : CompiledRule) (subject : String) :
    c.replaceIn subject = (c.count subject, c.replaceAll subject) := by
  have hcount : c.count subject = (c.replaceIn subject).1 := List.length_map _
  rw [hcount, replaceAll_eq]

end CompiledRule

/-- Without a match nothing is replaced. -/
lemma replaceIn_eq_of_count_eq_zero {c : CompiledRule} {subject : String}
    (h : (c.replaceIn subject).1 = 0) : (c.replaceIn subject).2 = subject := by
  have hnil : c.regex.find subject.toList.toArray = [] := List.length_eq_zero_iff.mp h
  simp [CompiledRule.replaceIn, hnil, substitute, between]

end Scratchpad.Replace
