import Scratchpad.German
import Scratchpad.Proofs.Replace.Dictionary
import Scratchpad.Proofs.Rule.Comments

/-!
# The German rules are a dictionary

The rules turn words of the second person into words of the first, and no word of the first person
is one of the second.  Hence their passes translate a text word by word.

* `readAll_germanRuleText` — the rules are those of the rule file.
* `isWordRule_of_mem` — every rule looks for a word and writes a word.
* `isDictionary_germanRules` — no word is looked for twice, and none that is written is looked for.
* `translateWord`, `translate` — the translation of a word and of a text.
* **`fromYouToMe_eq_translate`** — the passes translate a text, in whatever order.
-/

namespace Scratchpad

open Replace (variants lookUp lookedFor IsWordRule IsDictionary mem_variants)
open Text (IsWord words mapWords)
open Unicode (isWordChar)

/-! ## The rule file -/

lemma germanRuleLines_written : ∀ l ∈ germanRuleLines,
    '"' ∉ l.toList ∨ (Rule.readAll l).map Rule.describe = [l] := by
  decide +kernel

/-- **The rules are those of the rule file.**  Its headings and blank lines hold no rules. -/
lemma readAll_germanRuleText : Rule.readAll germanRuleText = germanRules := by
  rw [germanRuleText, Rule.readAll_lines germanRuleLines_written]
  decide +kernel

/-! ## The rules one by one -/

lemma germanRules_keep : ∀ r ∈ variants germanRules, r.patternFlags = "" ∧ r.deletes = false := by
  decide +kernel

lemma germanRules_words : (variants germanRules).all (fun r =>
    !r.pattern.toList.isEmpty && r.pattern.toList.all isWordChar &&
      !r.replacement.toList.isEmpty && r.replacement.toList.all isWordChar &&
      decide (r.pattern.toList.length ≤ 80000)) = true := by
  decide +kernel

lemma isWordRule_of_mem : ∀ r ∈ variants germanRules, IsWordRule r := by
  intro r hr
  have hwords := List.all_eq_true.mp germanRules_words r hr
  simp only [Bool.and_eq_true, Bool.not_eq_true', List.isEmpty_eq_false_iff, List.all_eq_true,
    decide_eq_true_eq] at hwords
  obtain ⟨⟨⟨⟨hne, hpattern⟩, hne'⟩, hreplacement⟩, hlength⟩ := hwords
  exact
    { flags := (germanRules_keep r hr).1
      keeps := (germanRules_keep r hr).2
      pattern := ⟨hne, hpattern⟩
      replacement := ⟨hne', hreplacement⟩
      length := hlength }

/-! ## The rules together -/

/-- A word as a number.  Numbers are told apart faster than words. -/
def wordCode (w : List Char) : ℕ := w.foldl (fun n c => n * 0x110000 + c.toNat) 0

lemma nodup_germanRules :
    ((variants germanRules).map fun r : Rule => wordCode r.pattern.toList).Nodup := by
  decide +kernel

lemma apart_germanRules : (variants germanRules).all (fun r =>
    (variants germanRules).all fun s =>
      wordCode s.pattern.toList != wordCode r.replacement.toList) = true := by
  decide +kernel

/-- **The rules are a dictionary.** -/
theorem isDictionary_germanRules : IsDictionary (variants germanRules) where
  agree r hr s hs heq := by
    have hsame := List.inj_on_of_nodup_map nodup_germanRules hr hs (congrArg wordCode heq)
    rw [hsame]
  apart r hr s hs heq := by
    have hapart := List.all_eq_true.mp (List.all_eq_true.mp apart_germanRules r hr) s hs
    rw [heq, bne_self_eq_false] at hapart
    cases hapart

/-! ## The translation -/

/-- What becomes of a word. -/
def translateWord : List Char → List Char := lookUp (variants germanRules)

/-- The text with every word translated, and everything between the words copied. -/
def translate (text : String) : String := .ofList (mapWords translateWord text.toList)

lemma translate_translate (text : String) : translate (translate text) = translate text := by
  have hwords : ∀ w, IsWord w → IsWord (translateWord w) := Replace.isWord_lookUp isWordRule_of_mem
  have htwice : (fun w => translateWord (translateWord w)) = translateWord :=
    funext isDictionary_germanRules.lookUp_lookUp
  rw [translate, translate, String.toList_ofList, Text.mapWords_mapWords hwords, htwice]

/-- The rules translate in any order. -/
lemma applyRules_of_perm {rs : List Rule} (hrs : rs.Perm germanRules) (text : String) :
    ∃ run, applyRules rs text { wholeWords := true, preserveCase := true } = .ok run ∧
      run.text = translate text ∧
      (run.passes.map Pass.matchCount).sum
        = (words text.toList).countP (lookedFor (variants germanRules)) :=
  Replace.applyRules_of_isDictionary isWordRule_of_mem isDictionary_germanRules
    (fun _ => hrs.mem_iff) rfl rfl text

/-- The German rules never fail. -/
lemma fromYouToMe_ok (text : String) : fromYouToMe text = .ok (translate text) := by
  obtain ⟨run, hrun, htext, -⟩ := applyRules_of_perm (List.Perm.refl _) text
  rw [fromYouToMe, hrun, ← htext]
  rfl

/-- **The passes of the German rules translate a text word by word.**  The rules are those of the
rule file.  A word that a rule looks for, as it is written or capitalized, becomes the replacement of
the same variant of that rule; any other word stays.  The text does not depend on the order of the
rules, there are as many replacements in all passes as there are words to be translated, so that
none is replaced twice, and a second application changes nothing. -/
theorem fromYouToMe_eq_translate :
    Rule.readAll germanRuleText = germanRules ∧
    (∀ r ∈ germanRules, ∀ v,
      translateWord (r.variant v).pattern.toList = (r.variant v).replacement.toList) ∧
    (∀ w, (∀ r ∈ germanRules, ∀ v, (r.variant v).pattern.toList ≠ w) → translateWord w = w) ∧
    ∀ text, fromYouToMe text = .ok (translate text) ∧
      fromYouToMe (translate text) = .ok (translate text) ∧
      ∀ rs : List Rule, rs.Perm germanRules →
        ∃ run, applyRules rs text { wholeWords := true, preserveCase := true } = .ok run ∧
          run.text = translate text ∧
          (run.passes.map Pass.matchCount).sum
            = (words text.toList).countP (lookedFor (variants germanRules)) := by
  refine ⟨readAll_germanRuleText, fun r hr v => ?_, fun w hw => ?_, fun text =>
    ⟨fromYouToMe_ok text, ?_, fun rs hrs => applyRules_of_perm hrs text⟩⟩
  · exact isDictionary_germanRules.lookUp_of_mem (mem_variants.mpr ⟨r, hr, v, rfl⟩)
  · refine Replace.lookUp_of_forall_ne fun r hr => ?_
    obtain ⟨s, hs, v, rfl⟩ := mem_variants.mp hr
    exact hw s hs v
  · rw [fromYouToMe_ok, translate_translate]

/-- Capitalized, with a word that only begins like another, and in the reverse order. -/
theorem fromYouToMe_reversed :
    let text := "Weißt du, was du_ hast?"
    let translated := "Weiß ich, was du_ habe?"
    let r : Rule := { pattern := "weißt", replacement := "weiß" }
    (r ∈ germanRules ∧ translateWord "Weißt".toList = "Weiß".toList) ∧
    ((∀ r ∈ germanRules, ∀ v, (r.variant v).pattern.toList ≠ "du_".toList) ∧
      translateWord "du_".toList = "du_".toList) ∧
    fromYouToMe text = .ok translated ∧ fromYouToMe translated = .ok translated ∧
    germanRules.reverse.Perm germanRules ∧
    ∃ run, applyRules germanRules.reverse text { wholeWords := true, preserveCase := true }
        = .ok run ∧
      run.text = translated ∧ (run.passes.map Pass.matchCount).sum = 3 := by
  intro text translated r
  obtain ⟨-, hvariant, hother, hall⟩ := fromYouToMe_eq_translate
  obtain ⟨hrun, htwice, hperm⟩ := hall text
  have htranslate : translate text = translated := by decide +kernel
  have hcount : (words text.toList).countP (lookedFor (variants germanRules)) = 3 := by
    decide +kernel
  have hr : r ∈ germanRules := by decide +kernel
  have hne : ∀ r ∈ germanRules, ∀ v, (r.variant v).pattern.toList ≠ "du_".toList := by
    have hall : ∀ r ∈ variants germanRules, r.pattern.toList ≠ "du_".toList := by decide +kernel
    exact fun r hr v => hall _ (mem_variants.mpr ⟨r, hr, v, rfl⟩)
  have hcapital : (r.variant .capitalized).pattern.toList = "Weißt".toList := by decide +kernel
  have hcapital' : (r.variant .capitalized).replacement.toList = "Weiß".toList := by
    decide +kernel
  have hweisst := hvariant r hr .capitalized
  rw [hcapital, hcapital'] at hweisst
  rw [htranslate] at hrun htwice
  have hreverse : germanRules.reverse.Perm germanRules := List.reverse_perm _
  obtain ⟨run, happly, htext, hsum⟩ := hperm _ hreverse
  exact ⟨⟨hr, hweisst⟩, ⟨hne, hother _ hne⟩, hrun, htwice, hreverse, run, happly,
    htext.trans htranslate, hsum.trans hcount⟩

end Scratchpad
