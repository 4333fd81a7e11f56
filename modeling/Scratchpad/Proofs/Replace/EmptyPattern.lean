import Scratchpad.Proofs.Replace.Words

/-!
# The empty pattern

Nothing is found at every place of a text: in front of each character, and behind the last one.  A
rule with the empty pattern writes its replacement there and keeps every character.

* `everywhere`, `spread` — an empty match at every place, and a text with something written there.
* `substitute_everywhere` — to replace the one is to write the other.
* `compile_directive`, `emptyRule` — whatever the flags are, the empty pattern means the same.
* **`applyRules_emptyPattern`** — a run of a rule with the empty pattern.
-/

namespace Scratchpad.Replace

open Pattern (Match Regex allMatches_empty)

/-! ## Every place -/

/-- A text with `r` in front of every character and at the end. -/
def spread (r cs : List Char) : List Char := r ++ cs.flatMap fun c => c :: r

@[simp]
lemma spread_nil (r : List Char) : spread r [] = r := List.append_nil r

@[simp]
lemma spread_cons (r : List Char) (c : Char) (cs : List Char) :
    spread r (c :: cs) = r ++ c :: spread r cs := rfl

/-- If nothing is written at all places, the text remains. -/
lemma spread_of_nil (cs : List Char) : spread [] cs = cs := List.flatMap_singleton' cs

/-- An empty match at every place from one on. -/
def everywhere (text : Array Char) (place : ℕ) : List Match :=
  (List.range' place (text.size + 1 - place)).map fun p => ⟨p, p, []⟩

section

variable {text : Array Char} {place : ℕ} {write : Match → List Char} {r : List Char}

lemma everywhere_of_le (h : place ≤ text.size) :
    everywhere text place = ⟨place, place, []⟩ :: everywhere text (place + 1) := by
  have hlen : text.size + 1 - place = text.size + 1 - (place + 1) + 1 := by omega
  rw [everywhere, hlen, List.range'_succ, List.map_cons, everywhere]

/-- At each place something is written before the way goes on. -/
lemma substitute_everywhere_of_le (hwrite : ∀ m, write m = r) (h : place ≤ text.size) :
    substitute text write place (everywhere text place)
      = r ++ substitute text write place (everywhere text (place + 1)) := by
  have hstart : (⟨place, place, []⟩ : Match).start = place := rfl
  rw [everywhere_of_le h, substitute_start hstart, hwrite]

/-- **What is written at every place** stands around the characters from there on. -/
lemma substitute_everywhere (hwrite : ∀ m, write m = r) (h : place ≤ text.size) :
    substitute text write place (everywhere text place) = spread r (text.toList.drop place) := by
  -- along the characters that are left
  generalize hrest : text.toList.drop place = rest
  induction rest generalizing place with
  | nil =>
      have hend : place = text.size := by
        have := congrArg List.length hrest
        simp only [List.length_drop, Array.length_toList, List.length_nil] at this
        omega
      rw [substitute_everywhere_of_le hwrite h, hend]
      simp [everywhere, substitute]
  | cons c cs ih =>
      have hlt := lt_size_of_drop_eq_cons hrest
      have hbehind : text.toList.drop (place + 1) = cs := by
        rw [← List.drop_drop, hrest, List.drop_one, List.tail_cons]
      have hnext : ∀ m ∈ (everywhere text (place + 1)).head?, place < m.start := by
        rw [everywhere_of_le hlt]
        rintro m ⟨⟩
        exact Nat.lt_succ_self place
      rw [substitute_everywhere_of_le hwrite h, substitute_eq_cons hrest hnext, ih hlt hbehind,
        spread_cons]

end

/-! ## A rule with the empty pattern -/

/-- The empty pattern behind any flags is the empty expression. -/
lemma compile_directive (flags : PatternFlags) :
    Regex.compile (effectivePattern flags false "") = .ok (.ofExpr .empty) := by
  obtain ⟨ignoreCase, multiLine, dotAll⟩ := flags
  cases ignoreCase <;> cases multiLine <;> cases dotAll <;> decide +kernel

/-- The compiled form of a rule with the empty pattern. -/
def emptyRule (r : Rule) : CompiledRule :=
  let regex := Regex.ofExpr .empty
  ⟨regex, templateOf r regex, r.describe⟩

/-- There is one match more than there are characters. -/
lemma replaceIn_emptyRule {r : Rule} (hplain : r.deletes = true ∨ '$' ∉ r.replacement.toList)
    (subject : String) :
    (emptyRule r).replaceIn subject
      = (subject.toList.length + 1, .ofList (spread (written r) subject.toList)) := by
  have hfind : (emptyRule r).regex.find subject.toList.toArray
      = everywhere subject.toList.toArray 0 := by
    refine (allMatches_empty _).trans ?_
    rw [everywhere, Nat.sub_zero, List.range_eq_range']
  have hlength : (everywhere subject.toList.toArray 0).length = subject.toList.length + 1 := by
    simp [everywhere]
  have hwrite : ∀ m, (emptyRule r).expansion subject.toList.toArray m = written r := fun m =>
    expand_templateOf_eq_written hplain _ _ _
  rw [CompiledRule.replaceIn]
  simp only [hfind, hlength, substitute_everywhere hwrite (Nat.zero_le _), List.drop_zero]

/-- **The empty pattern is found at every place.**  Run on its own, and not for whole words, a rule
with the empty pattern goes through whatever flags it has, if they are known.  It finds one match
more than the text has characters, however many bytes these take.  Its replacement, if it holds no
dollar, is written in front of every character and at the end; a rule that deletes leaves the text
as it is. -/
theorem applyRules_emptyPattern {rule : Rule} {flags : PatternFlags} (hpattern : rule.pattern = "")
    (hflags : PatternFlags.ofLetters rule.patternFlags = .ok flags)
    (hplain : rule.deletes = true ∨ '$' ∉ rule.replacement.toList) {o : Options}
    (hwords : o.wholeWords = false) (hcase : o.preserveCase = false) (subject : String) :
    ∃ run, applyRules [rule] subject o = .ok run ∧
      run.passes = [⟨0, .asWritten, subject.toList.length + 1⟩] ∧
      run.text.toList = spread (written rule) subject.toList ∧
      (rule.deletes = true → run.text = subject) := by
  have hcompiled : CompiledRule.ofRule 0 rule .asWritten o.wholeWords = .ok (emptyRule rule) := by
    refine ofRule_eq_ok_iff.mpr ⟨flags, _, hflags, ?_, rfl⟩
    rw [hwords, Rule.variant, hpattern]
    exact compile_directive flags
  have htext : (Run.after o 0 .asWritten (emptyRule rule) { text := subject }).text.toList
      = spread (written rule) subject.toList := by
    rw [Run.text_after, replaceIn_emptyRule hplain, String.toList_ofList]
  rw [applyRules_singleton hcase]
  refine ⟨_, (Run.pass_eq_ok_iff o).mpr ⟨_, hcompiled, rfl⟩, ?_, htext, fun hdeletes => ?_⟩
  · rw [Run.after, replaceIn_emptyRule hplain]
    rfl
  · rw [← String.toList_inj, htext, written, if_pos hdeletes, spread_of_nil]

/-- Characters of one, two and four bytes, and a rule that deletes, the replacement of which has a
dollar in it. -/
theorem applyRules_emptyPattern_wide :
    let rule : Rule := { pattern := "", patternFlags := "sigu", replacement := "–" }
    let deleting : Rule := { pattern := "", replacement := "$1", replacementFlags := "x" }
    PatternFlags.ofLetters rule.patternFlags = .ok ⟨true, false, true⟩ ∧
      '$' ∉ rule.replacement.toList ∧
      (∃ run, applyRules [rule] "aö😀" {} = .ok run ∧ run.passes = [⟨0, .asWritten, 4⟩] ∧
        run.text.toList = "–a–ö–😀–".toList) ∧
      PatternFlags.ofLetters deleting.patternFlags = .ok .default ∧ deleting.deletes = true ∧
      ∃ run, applyRules [deleting] "aö😀" {} = .ok run ∧ run.passes = [⟨0, .asWritten, 4⟩] ∧
        run.text = "aö😀" := by
  intro rule deleting
  have hflags : PatternFlags.ofLetters rule.patternFlags = .ok ⟨true, false, true⟩ := by
    decide +kernel
  have hdollar : '$' ∉ rule.replacement.toList := by decide
  have hdeletes : deleting.deletes = true := by decide
  obtain ⟨run, hrun, hpasses, htext, -⟩ :=
    applyRules_emptyPattern rfl hflags (.inr hdollar) (o := {}) rfl rfl "aö😀"
  obtain ⟨run', hrun', hpasses', -, hkept⟩ :=
    applyRules_emptyPattern rfl rfl (.inl hdeletes) (o := {}) rfl rfl "aö😀"
  have hspread : spread (written rule) "aö😀".toList = "–a–ö–😀–".toList := by decide
  exact ⟨hflags, hdollar, ⟨run, hrun, hpasses, htext.trans hspread⟩, rfl, hdeletes, run', hrun',
    hpasses', hkept hdeletes⟩

end Scratchpad.Replace
