import Scratchpad.Proofs.Pattern.WordPattern
import Scratchpad.Proofs.Replace.BackReference
import Scratchpad.Proofs.Replace.Between

/-!
# Replacing whole words

A pass that looks for whole words replaces the words of the text that are among them, and nothing
else.  Passes of this kind go through a text word by word.

* `substitute_of_scans`, `replaceIn_words` — one pass.
* `LooksFor` — a rule that looks for some words and writes the same for each of them.
* `IsWordRule` — a rule that looks for a word and writes a word.
* `rewrite`, `rewrites` — what becomes of a word under such rules, and how often it is replaced.
* **`runJobs_words`** — a run goes through, and all that it does is done to the single words.
* **`applyRules_of_looksFor`** — a rule for words replaces these words and nothing else.
-/

namespace Scratchpad.Replace

open Pattern Pattern.Expr
open Text
open Unicode (isWordChar)

/-! ## One pass -/

/-- What is written for a word: the same word, or the replacement of those that are looked for. -/
def swap (ws : List (List Char)) (r w : List Char) : List Char := if w ∈ ws then r else w

lemma swap_of_mem {ws : List (List Char)} {w : List Char} (h : w ∈ ws) (r : List Char) :
    swap ws r w = r := if_pos h

lemma swap_of_notMem {ws : List (List Char)} {w : List Char} (h : w ∉ ws) (r : List Char) :
    swap ws r w = w := if_neg h

section

variable {ws : List (List Char)} {r : List Char} {text : Array Char} {place : ℕ} {ms : List Match}
  {write : Match → List Char}

lemma insideWord_succ {c : Char} {cs : List Char} (h : text.toList.drop place = c :: cs) :
    insideWord text (place + 1) = isWordChar c := by
  have hget : text[place]? = some c := by
    rw [← Array.getElem?_toList, ← List.head?_drop, h, List.head?_cons]
  rw [insideWord, before?, hget]
  rfl

/-- **From any place on**, the words that are looked for are replaced, and one match is made for
each of them. -/
lemma substitute_of_scans (hne : ws ≠ []) (hws : ∀ w ∈ ws, IsWord w) (hwrite : ∀ m, write m = r)
    (h : Scans (wordsExpr ws) text place ms) :
    substitute text write place ms
        = mapWordsFrom (insideWord text place) (swap ws r) (text.toList.drop place) ∧
      ms.length
        = (wordsFrom (insideWord text place) (text.toList.drop place)).countP (· ∈ ws) := by
  induction h with
  | done =>
      have hnil : text.toList.drop text.size = [] := by simp [← Array.length_toList]
      have houtside : Outside [] := by simp [Outside]
      simp [substitute, hnil, mapWordsFrom_of_outside houtside, wordsFrom_of_outside houtside]
  | @skip place ms hlt hnone hrest ih =>
      have hdrop := List.drop_eq_getElem_cons (l := text.toList) (i := place) (by simpa using hlt)
      have hstep : substitute text write place ms
          = text.toList[place] :: substitute text write (place + 1) ms :=
        substitute_eq_cons hdrop fun m hm => Nat.lt_of_succ_le (hrest.le_start m hm)
      have hnot : insideWord text place = false →
          (text.toList.drop place).takeWhile isWordChar ∉ ws := by
        simpa [matchAt_wordsExpr hne hws] using hnone
      rw [insideWord_succ hdrop] at ih
      rw [hdrop] at hnot
      rw [hstep, hdrop, mapWordsFrom_cons fun hin => swap_of_notMem (hnot hin) r, ih.1, ih.2,
        wordsFrom_cons]
      refine ⟨rfl, ?_⟩
      split
      · next hbegin =>
        rw [List.countP_cons_of_neg]
        simpa using hnot hbegin.1
      · rfl
  | @found place m ms hm hrest ih =>
      rw [matchAt_wordsExpr hne hws] at hm
      split at hm
      · next hfound =>
        obtain ⟨hin, hmem⟩ := hfound
        cases hm
        have hsplit := List.takeWhile_append_dropWhile (p := isWordChar)
          (l := text.toList.drop place)
        have houtside := head?_dropWhile isWordChar (text.toList.drop place)
        generalize (text.toList.drop place).takeWhile isWordChar = w at *
        generalize (text.toList.drop place).dropWhile isWordChar = rest at *
        have hbehind : text.toList.drop (place + w.length) = rest := by
          rw [← List.drop_drop, ← hsplit, List.drop_left]
        have hw := hws w hmem
        rw [hbehind, mapWordsFrom_of_outside houtside, wordsFrom_of_outside houtside] at ih
        have hstart : (⟨place, place + w.length, []⟩ : Match).start = place := rfl
        rw [substitute_start hstart, ih.1, ← hsplit, hin, hwrite]
        simp [mapWordsFrom, wordsFrom, mapWords_append hw houtside, words_append hw houtside,
          swap_of_mem, hmem, ih.2]
      · cases hm

/-- **A pass that looks for whole words**, by its matches and by what it leaves. -/
theorem replaceIn_words {c : CompiledRule} (hne : ws ≠ []) (hws : ∀ w ∈ ws, IsWord w)
    (hregex : c.regex = .ofExpr (wordsExpr ws)) (hwrite : ∀ text m, c.expansion text m = r)
    (subject : String) :
    c.replaceIn subject = ((words subject.toList).countP (· ∈ ws),
      .ofList (mapWords (swap ws r) subject.toList)) := by
  have htakes : ∀ p m, (wordsExpr ws).matchAt subject.toList.toArray p = some m → p < m.stop := by
    intro p m hm
    rw [matchAt_wordsExpr hne hws] at hm
    split at hm
    · next hfound =>
      cases hm
      exact Nat.lt_add_of_pos_right (List.length_pos_iff.mpr (hws _ hfound.2).1)
    · cases hm
  obtain ⟨htext, hcount⟩ := substitute_of_scans hne hws (hwrite subject.toList.toArray)
    (scans_allMatches (isPlain_wordsExpr ws) htakes)
  rw [CompiledRule.replaceIn, hregex]
  exact congrArg₂ Prod.mk hcount (congrArg String.ofList htext)

end

/-! ## Rules for words -/

/-- What a rule writes for a match, if its replacement holds no references. -/
def written (r : Rule) : List Char := if r.deletes then [] else r.replacement.toList

/-- The template of such a rule is a literal text. -/
lemma literal?_templateOf {r : Rule} (h : r.deletes = true ∨ '$' ∉ r.replacement.toList)
    (regex : Regex) : (templateOf r regex).literal? = some (written r) := by
  unfold templateOf written
  cases hdeletes : r.deletes with
  | true => rfl
  | false =>
      have hdollar := h.resolve_left (by simp [hdeletes])
      rw [if_neg Bool.false_ne_true, if_neg Bool.false_ne_true, templateText_of_notMem hdollar,
        literal?_ofChars, if_neg hdollar]

/-- It writes the same for every match. -/
lemma expand_templateOf_eq_written {r : Rule}
    (h : r.deletes = true ∨ '$' ∉ r.replacement.toList) (regex : Regex)
    (groupText : ℕ → Option (List Char)) (number? : String → Option ℕ) :
    (templateOf r regex).expand groupText number? = written r :=
  expand_of_literal? (literal?_templateOf h regex) groupText number?

/-- A rule that looks for some words, with bars between them, and writes the same for each. -/
structure LooksFor (ws : List (List Char)) (r : Rule) : Prop where
  words_ne_nil : ws ≠ []
  isWord : ∀ w ∈ ws, IsWord w
  pattern : r.pattern.toList = barred ws
  flags : r.patternFlags = ""
  plain : r.deletes = true ∨ '$' ∉ r.replacement.toList

/-- The compiled form of a rule for some words. -/
def wordsRule (ws : List (List Char)) (r : Rule) : CompiledRule :=
  let regex := Regex.ofExpr (wordsExpr ws)
  ⟨regex, templateOf r regex, r.describe⟩

lemma effectivePattern_default (p : String) : effectivePattern .default true p
    = .ofList ("(?m)\\b(?:".toList ++ (p.toList ++ ")\\b".toList)) := by
  have hflags : PatternFlags.directive .default = "(?m)" := rfl
  rw [effectivePattern, hflags, if_pos rfl]
  simp [← String.toList_inj]

namespace LooksFor

variable {ws : List (List Char)}

/-- **A rule for words compiles** to the words that it looks for, if these are not too many. -/
lemma ofRule_eq {rule : Rule} {variant : Variant} (h : LooksFor ws (rule.variant variant))
    (index : ℕ) :
    CompiledRule.ofRule index rule variant true
      = if (wordsExpr ws).tooLarge then
          .error (.invalidPattern index (rule.variant variant).pattern .tooLarge)
        else .ok (wordsRule ws (rule.variant variant)) := by
  have hflags : rule.patternFlags = "" := by
    have := h.flags
    cases variant <;> exact this
  have hknown : PatternFlags.ofLetters rule.patternFlags = .ok .default := by
    rw [hflags]
    rfl
  have hcompile := compile_words h.words_ne_nil h.isWord
  rw [← h.pattern, ← effectivePattern_default] at hcompile
  rw [CompiledRule.ofRule, hknown]
  dsimp only
  rw [hcompile]
  cases (wordsExpr ws).tooLarge <;> rfl

/-- **A rule for words replaces** these words and counts them. -/
lemma replaceIn_eq {r : Rule} (h : LooksFor ws r) (subject : String) :
    (wordsRule ws r).replaceIn subject = ((words subject.toList).countP (· ∈ ws),
      .ofList (mapWords (swap ws (written r)) subject.toList)) := by
  refine replaceIn_words h.words_ne_nil h.isWord rfl ?_ subject
  exact fun _ _ => expand_templateOf_eq_written h.plain _ _ _

end LooksFor

/-- A rule that looks for a word and writes a word. -/
structure IsWordRule (r : Rule) : Prop where
  flags : r.patternFlags = ""
  keeps : r.deletes = false
  pattern : IsWord r.pattern.toList
  replacement : IsWord r.replacement.toList
  length : r.pattern.toList.length ≤ 80000

/-- What a rule makes of a word. -/
def swapBy (r : Rule) : List Char → List Char := swap [r.pattern.toList] r.replacement.toList

/-- What becomes of a word under rules that follow one another. -/
def rewrite : List Rule → List Char → List Char
  | [], w => w
  | r :: rs, w => rewrite rs (swapBy r w)

/-- How often a word is replaced by rules that follow one another. -/
def rewrites : List Rule → List Char → ℕ
  | [], _ => 0
  | r :: rs, w => (if w ∈ [r.pattern.toList] then 1 else 0) + rewrites rs (swapBy r w)

lemma IsWordRule.isWord_swapBy {r : Rule} (h : IsWordRule r) :
    ∀ w, IsWord w → IsWord (swapBy r w) := by
  intro w hw
  unfold swapBy swap
  split
  · exact h.replacement
  · exact hw

lemma IsWordRule.dollar_notMem {r : Rule} (h : IsWordRule r) : '$' ∉ r.replacement.toList := by
  intro hmem
  exact absurd (h.replacement.2 _ hmem) (by decide)

/-- The compiled form of a rule for a word. -/
def wordRule (r : Rule) : CompiledRule :=
  let regex := Regex.ofExpr (wordsExpr [r.pattern.toList])
  ⟨regex, templateOf r regex, r.describe⟩

lemma IsWordRule.looksFor {r : Rule} (h : IsWordRule r) : LooksFor [r.pattern.toList] r where
  words_ne_nil := List.cons_ne_nil _ _
  isWord := by simpa using h.pattern
  pattern := List.intercalate_singleton.symm
  flags := h.flags
  plain := .inr h.dollar_notMem

lemma IsWordRule.ofRule_eq {rule : Rule} {variant : Variant} (h : IsWordRule (rule.variant variant))
    (index : ℕ) :
    CompiledRule.ofRule index rule variant true = .ok (wordRule (rule.variant variant)) := by
  have hlength : (barred [(rule.variant variant).pattern.toList]).length ≤ 80000 := by
    rw [← h.looksFor.pattern]
    exact h.length
  rw [h.looksFor.ofRule_eq, tooLarge_wordsExpr (List.cons_ne_nil _ _) hlength]
  rfl

lemma IsWordRule.replaceIn_eq {r : Rule} (h : IsWordRule r) (subject : String) :
    (wordRule r).replaceIn subject = ((words subject.toList).countP (· ∈ [r.pattern.toList]),
      .ofList (mapWords (swapBy r) subject.toList)) := by
  have hwritten : written r = r.replacement.toList := if_neg (by simp [h.keeps])
  rw [swapBy, ← hwritten]
  exact h.looksFor.replaceIn_eq subject

section

variable {o : Options}

/-- **A pass with a rule for a word** goes through, replaces that word and counts it. -/
lemma pass_of_isWordRule (ho : o.wholeWords = true) {j : Job} (h : IsWordRule j.applied) (r : Run) :
    ∃ r', r.pass o j.index j.rule j.variant = .ok r' ∧
      r'.text = .ofList (mapWords (swapBy j.applied) r.text.toList) ∧
      r'.passes = r.passes ++ [⟨j.index, j.variant,
        (words r.text.toList).countP (· ∈ [j.applied.pattern.toList])⟩] := by
  have hcompiled : CompiledRule.ofRule j.index j.rule j.variant o.wholeWords
      = .ok (wordRule j.applied) := ho ▸ h.ofRule_eq j.index
  refine ⟨_, (Run.pass_eq_ok_iff o).mpr ⟨_, hcompiled, rfl⟩, ?_, ?_⟩
  · rw [Run.text_after, h.replaceIn_eq]
  · rw [Run.after, h.replaceIn_eq]

/-- The words that one rule replaces come to those that the following ones replace. -/
lemma sum_rewrites_cons (r : Rule) (rs : List Rule) (ws : List (List Char)) :
    (ws.map (rewrites (r :: rs))).sum = ws.countP (· ∈ [r.pattern.toList]) +
      ((ws.map (swapBy r)).map (rewrites rs)).sum := by
  induction ws with
  | nil => rfl
  | cons w ws ih =>
      rw [List.map_cons, List.sum_cons, ih, rewrites, List.countP_cons, List.map_cons,
        List.map_cons, List.sum_cons]
      simp only [decide_eq_true_eq]
      omega

/-- **A run of rules for words** goes through.  All that it does is done to the single words. -/
theorem runJobs_words (ho : o.wholeWords = true) {js : List Job}
    (hjs : ∀ j ∈ js, IsWordRule j.applied) (r : Run) :
    ∃ r', r.runJobs o js = .ok r' ∧
      r'.text = .ofList (mapWords (rewrite (js.map Job.applied)) r.text.toList) ∧
      (r'.passes.map Pass.matchCount).sum = (r.passes.map Pass.matchCount).sum +
        ((words r.text.toList).map (rewrites (js.map Job.applied))).sum := by
  induction js generalizing r with
  | nil =>
      refine ⟨r, rfl, ?_, ?_⟩
      · have hid : rewrite ([].map Job.applied) = fun w => w := rfl
        rw [hid, mapWords_id, String.ofList_toList]
      · have hzero : rewrites ([].map Job.applied) = fun _ => 0 := rfl
        rw [hzero, List.map_const', List.sum_replicate, smul_zero, Nat.add_zero]
  | cons j js ih =>
      have hj := hjs j List.mem_cons_self
      obtain ⟨next, hpass, htext, hpasses⟩ := pass_of_isWordRule ho hj r
      obtain ⟨r', hrun, htext', hcount⟩ := ih (fun k hk => hjs k (List.mem_cons_of_mem j hk)) next
      refine ⟨r', ?_, ?_, ?_⟩
      · rw [Run.runJobs_cons, hpass]
        exact hrun
      · rw [htext', htext, String.toList_ofList, mapWords_mapWords hj.isWord_swapBy]
        rfl
      · rw [hcount, hpasses, htext, String.toList_ofList, words_mapWords hj.isWord_swapBy,
          List.map_cons, sum_rewrites_cons, List.map_append, List.sum_append]
        simp [Nat.add_assoc]

end

/-! ## A single rule -/

/-- A single rule makes a single pass, unless case is to be preserved. -/
lemma applyRules_singleton {o : Options} (ho : o.preserveCase = false) (rule : Rule)
    (subject : String) :
    applyRules [rule] subject o = ({ text := subject } : Run).pass o 0 rule .asWritten := by
  rw [applyRules, Run.rules_eq_runJobs]
  simp [jobs, ruleJobs, ho, Run.runJobs]

/-- **A rule for words replaces these words and nothing else.**  Run on its own for whole words, it
goes through if its pattern is of ordinary length.  Whenever it goes through, the words of the text
that it looks for are replaced, or removed by a rule that deletes, everything else is copied, and
there are as many matches as there are such words. -/
theorem applyRules_of_looksFor {ws : List (List Char)} {rule : Rule} (h : LooksFor ws rule)
    {o : Options} (hwords : o.wholeWords = true) (hcase : o.preserveCase = false)
    (subject : String) :
    (rule.pattern.toList.length ≤ 80000 → ∃ run, applyRules [rule] subject o = .ok run) ∧
    ∀ run, applyRules [rule] subject o = .ok run →
      run.text = .ofList (mapWords (swap ws (written rule)) subject.toList) ∧
      run.passes = [⟨0, .asWritten, (words subject.toList).countP (· ∈ ws)⟩] := by
  have hcompile : CompiledRule.ofRule 0 rule .asWritten true = _ := LooksFor.ofRule_eq h 0
  rw [applyRules_singleton hcase]
  refine ⟨fun hlength => ?_, fun run hrun => ?_⟩
  · have hsmall : (wordsExpr ws).tooLarge = false :=
      tooLarge_wordsExpr h.words_ne_nil (h.pattern ▸ hlength)
    refine ⟨_, (Run.pass_eq_ok_iff o).mpr ⟨wordsRule ws rule, ?_, rfl⟩⟩
    rw [hwords, hcompile, hsmall]
    rfl
  · obtain ⟨c, hc, rfl⟩ := (Run.pass_eq_ok_iff o).mp hrun
    have hwordsRule : c = wordsRule ws rule := by
      rw [hwords, hcompile] at hc
      split at hc
      · cases hc
      · exact (Except.ok.inj hc).symm
    subst hwordsRule
    refine ⟨?_, ?_⟩
    · rw [Run.text_after, h.replaceIn_eq]
    · rw [Run.after, h.replaceIn_eq]
      rfl

/-- Words that begin like one another, some of them part of longer words, one of which goes on with
a combining accent only. -/
theorem applyRules_of_looksFor_beginnings :
    let ws := ["a".toList, "ab".toList, "über".toList]
    let rule : Rule := { pattern := "a|ab|über", replacement := "X" }
    let subject := "ab a abc Über über, a\u0301 _a"
    LooksFor ws rule ∧
      ∃ run, applyRules [rule] subject { wholeWords := true } = .ok run ∧
        run.text = "X X abc Über X, a\u0301 _a" ∧ run.passes = [⟨0, .asWritten, 3⟩] := by
  intro ws rule subject
  have hall : (ws.all fun w => !w.isEmpty && w.all isWordChar) = true := by decide +kernel
  simp only [List.all_eq_true, Bool.and_eq_true, Bool.not_eq_true', List.isEmpty_eq_false_iff]
    at hall
  have h : LooksFor ws rule :=
    { words_ne_nil := List.cons_ne_nil _ _
      isWord := hall
      pattern := by decide +kernel
      flags := rfl
      plain := .inr (by decide +kernel) }
  obtain ⟨hgoes, hrun⟩ := applyRules_of_looksFor h (o := { wholeWords := true }) rfl rfl subject
  obtain ⟨run, hok⟩ := hgoes (by decide +kernel)
  obtain ⟨htext, hpasses⟩ := hrun run hok
  have hmapped : String.ofList (mapWords (swap ws (written rule)) subject.toList)
      = "X X abc Über X, a\u0301 _a" := by decide +kernel
  have hcount : (words subject.toList).countP (· ∈ ws) = 3 := by decide +kernel
  exact ⟨h, run, hok, htext.trans hmapped, hpasses.trans (by rw [hcount])⟩

end Scratchpad.Replace
