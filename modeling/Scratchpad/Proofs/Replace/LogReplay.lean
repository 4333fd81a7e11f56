import Scratchpad.Proofs.Replace.Passes
import Scratchpad.Proofs.Rule.Variant

/-!
# The log of a run is a rule file

A log is printed as lines, each of which ends in the written form of the rule that was applied.
Read as a rule file, it gives these rules; run on the text that the log is about, they do the same
once more.

* `readAll_render` — a printed log is read as the rules of its entries.
* `rules_of_hits` — running the rules that found something again finds the same again.
* **`applyRuleFile_render_log`** — the printed log of a run, as a rule file for the same text.
-/

namespace Scratchpad

open Rule (readAll readRules isFlagLetter)

/-! ## Printed logs -/

lemma quote_notMem_toDigits (n : ℕ) : '"' ∉ Nat.toDigits 10 n := by
  intro h
  exact absurd (Nat.isDigit_of_mem_toDigits (by decide) (by decide) h) (by decide)

/-- What a line of the log says in front of the rule. -/
def Log.label (e : LogEntry) : List Char :=
  '#' :: ((toString (e.ruleIndex + 1)).toList ++ [' ', '('] ++ (toString e.matchCount).toList ++
    ['x', ')', ':', ' '])

lemma quote_notMem_label (e : LogEntry) : '"' ∉ Log.label e := by
  simp [Log.label, quote_notMem_toDigits]

lemma toList_line (e : LogEntry) :
    (Log.line e).toList = Log.label e ++ (e.description.toList ++ ['\n']) := by
  simp [Log.line, Log.label, String.toList_append]

/-- **A printed log is read as the rules of its entries**, if these can be read back at all. -/
theorem readAll_render {l : Log} {rs : List Rule}
    (hl : l.map (·.description) = rs.map Rule.describe) (hrs : ∀ r ∈ rs, r.Writable) : readAll l.render = rs := by
  unfold Rule.readAll Log.render
  rw [String.toList_join]
  induction l generalizing rs with
  | nil =>
      obtain rfl : rs = [] := by simpa using hl.symm
      simp [readRules]
  | cons e l ih =>
      cases rs with
      | nil => simp at hl
      | cons r rs =>
          have he : e.description = r.describe := (List.cons.inj hl).1
          have hr := hrs r List.mem_cons_self
          have hrest := ih (List.cons.inj hl).2 fun x hx => hrs x (List.mem_cons_of_mem _ hx)
          rw [List.map_cons, List.flatMap_cons, toList_line, he, List.append_assoc,
            Rule.readRules_append (quote_notMem_label e), List.append_assoc,
            Rule.readRules_describe_append hr (by rfl),
            Rule.readRules_append (by decide : '"' ∉ ['\n']), hrest]

/-! ## Running the logged rules -/

/-- **The rules that found something find the same again**, and nothing else is logged. -/
theorem rules_of_hits {o : Options} (ho : o.log = true) (hp : o.preserveCase = false)
    {t u : String} {hs : List (Job × ℕ)} (h : Hits o.wholeWords t hs u) (k : ℕ) {r : Run}
    (hr : r.text = t) :
    ∃ r', r.rules o k (hs.map (·.1.applied)) = .ok r' ∧ r'.text = u ∧
      r'.log.map (·.matchCount) = r.log.map (·.matchCount) ++ hs.map (·.2) := by
  induction h generalizing k r with
  | nil t => exact ⟨r, rfl, hr, by simp⟩
  | @cons t u j c hs hc hn hrest ih =>
      subst hr
      have hpass := (Run.pass_eq_ok_iff o (r := r)).mpr ⟨c, ofRule_variant hc k, rfl⟩
      obtain ⟨r', hr', htext, hlog⟩ :=
        ih (k + 1) (r := r.after o k .asWritten c) (by simp [Run.after, hn])
      refine ⟨r', ?_, htext, ?_⟩
      · rw [List.map_cons, Run.rules, Run.rule, Job.applied, hpass]
        simp only [hp, Bool.false_eq_true, if_false]
        exact hr'
      · simp [hlog, Run.after, hn, ho]

/-! ## The log of a run -/

/-- The rule that a pass applied, out of the rule set that was run. -/
def Pass.rule? (rules : List Rule) (p : Pass) : Option Rule :=
  rules[p.ruleIndex]?.map (·.variant p.variant)

lemma rule?_hitPass {rules : List Rule} {preserveCase : Bool} {h : Job × ℕ}
    (hmem : h.1 ∈ jobs preserveCase 0 rules) : (hitPass h).rule? rules = some h.1.applied := by
  obtain ⟨-, hget⟩ := getElem?_of_mem_jobs hmem
  rw [Nat.sub_zero] at hget
  simp [Pass.rule?, hitPass, hget, Job.applied]

/-- **The printed log of a run is a rule file.**  Its rules are those that the productive passes
applied, one for each entry of the log, and to run them on the same text gives the same text with
the same numbers of matches. -/
theorem applyRuleFile_render_log {ruleText subject : String} {o : Options} {run : Run}
    (ho : o.log = true) (h : applyRuleFile ruleText subject o = .ok run) :
    run.log.map (fun e => (e.ruleIndex, e.matchCount))
      = run.productive.map (fun p => (p.ruleIndex, p.matchCount)) ∧
    (readAll run.log.render).map some
      = run.productive.map (fun p => p.rule? (readAll ruleText)) ∧
    ∃ again, applyRuleFile run.log.render subject { o with preserveCase := false } = .ok again ∧
      again.text = run.text ∧ again.log.map (·.matchCount) = run.log.map (·.matchCount) := by
  rw [applyRuleFile, applyRules, Run.rules_eq_runJobs] at h
  obtain ⟨hs, hhits, hsub, hprod, hlog⟩ := Run.hits_of_runJobs o h
  have hmem : ∀ x ∈ hs, x.1 ∈ jobs o.preserveCase 0 (readAll ruleText) := fun x hx =>
    hsub.subset (List.mem_map_of_mem hx)
  have hprod : run.productive = hs.map hitPass := hprod
  have hlog : run.log = hs.map hitEntry := by simpa [ho] using hlog
  have hwritable : ∀ r ∈ hs.map (·.1.applied), r.Writable := by
    intro r hr
    obtain ⟨x, hx, rfl⟩ := List.mem_map.mp hr
    obtain ⟨-, hget⟩ := getElem?_of_mem_jobs (hmem x hx)
    exact Rule.writable_variant
      (Rule.writable_of_mem_readRules (List.mem_of_getElem? hget)) x.1.variant
  have hread : readAll run.log.render = hs.map (·.1.applied) :=
    readAll_render (by simp [hlog, hitEntry]) hwritable
  obtain ⟨again, hagain, htext, hcounts⟩ :=
    rules_of_hits (o := { o with preserveCase := false }) ho rfl hhits 0
      (r := { text := subject }) rfl
  refine ⟨by simp [hlog, hprod, hitEntry, hitPass], ?_, again, ?_, htext, ?_⟩
  · rw [hread, hprod, List.map_map, List.map_map]
    exact List.map_congr_left fun x hx => (rule?_hitPass (hmem x hx)).symm
  · rw [applyRuleFile, hread]
    exact hagain
  · rw [hcounts, hlog, List.map_map]
    rfl

/-- A rule with a quote and line breaks in it, applied as written and capitalized, and a rule that
finds nothing. -/
theorem applyRuleFile_render_log_quoted :
    let ruleText := "\"sag \"d\n\"->\"sage\nich\"\n\"nie\"->\"x\""
    let subject := "sag \"d\n, Sag \"d\n!"
    let logged := "#1 (1x): \"sag \"d\n\"->\"sage\nich\"\n#1 (1x): \"Sag \"d\n\"->\"Sage\nich\"\n"
    (∃ run, applyRuleFile ruleText subject ⟨false, true, true⟩ = .ok run ∧ run.log.render = logged) ∧
      (readAll logged).length = 2 ∧
      ∃ again, applyRuleFile logged subject ⟨false, false, true⟩ = .ok again ∧
        again.text = "sage\nich, Sage\nich!" := by
  intro ruleText subject logged
  obtain ⟨run, hrun, hlogged, hpasses, htext⟩ :
      ∃ run, applyRuleFile ruleText subject ⟨false, true, true⟩ = .ok run ∧
        run.log.render = logged ∧ run.productive.length = 2 ∧ run.text = "sage\nich, Sage\nich!" :=
    ⟨⟨"sage\nich, Sage\nich!",
      [⟨0, 1, "\"sag \"d\n\"->\"sage\nich\""⟩, ⟨0, 1, "\"Sag \"d\n\"->\"Sage\nich\""⟩],
      [⟨0, .asWritten, 1⟩, ⟨0, .capitalized, 1⟩, ⟨1, .asWritten, 0⟩, ⟨1, .capitalized, 0⟩]⟩,
      by decide +kernel, by decide +kernel, by decide, rfl⟩
  obtain ⟨-, hrules, again, hagain, hsame, -⟩ := applyRuleFile_render_log rfl hrun
  rw [hlogged] at hrules hagain
  refine ⟨⟨run, hrun, hlogged⟩, ?_, again, hagain, hsame.trans htext⟩
  have := congrArg List.length hrules
  rwa [List.length_map, List.length_map, hpasses] at this

end Scratchpad
