import Scratchpad.Proofs.Pattern.Successive
import Scratchpad.Proofs.Replace.Passes

/-!
# Matches and the text between them

The matches that follow one another cut a text into gaps, one more than there are matches.  A pass
keeps the gaps and writes something else for each match.

* `gaps`, `interleave` — the text between matches, and what it is joined with.
* `substitute_eq_interleave` — a replacement joins the gaps.
* `interleave_gaps_matched` — gaps and matches together are the text.
* `writtenFor`, `expansion_eq_writtenFor` — what a rule writes for a match.
* **`pass_joins_gaps`** — a pass reports the matches that it replaces, and keeps the gaps.
-/

namespace Scratchpad.Replace

open Pattern (Match Regex Successive InOrder successive_allMatches)

variable {text : Array Char} {start place stop : ℕ} {m : Match} {ms : List Match}

/-! ## Gaps -/

/-- The text in front of each match from a place on, and the text behind the last one. -/
def gaps (text : Array Char) : (start : ℕ) → List Match → List (List Char)
  | start, [] => [between text start text.size]
  | start, m :: ms => between text start m.start :: gaps text m.stop ms

/-- Gaps with a part between each two of them. -/
def interleave : (gaps parts : List (List Char)) → List Char
  | g :: gs, p :: ps => g ++ p ++ interleave gs ps
  | gs, _ => gs.flatten

/-- There is one gap more than there are matches. -/
lemma length_gaps (text : Array Char) (start : ℕ) (ms : List Match) :
    (gaps text start ms).length = ms.length + 1 := by
  induction ms generalizing start with
  | nil => rfl
  | cons m ms ih => rw [gaps, List.length_cons, ih, List.length_cons]

/-- **A replacement joins the gaps** with what is written for the matches. -/
theorem substitute_eq_interleave (text : Array Char) (write : Match → List Char) (start : ℕ)
    (ms : List Match) :
    substitute text write start ms = interleave (gaps text start ms) (ms.map write) := by
  induction ms generalizing start with
  | nil => simp [substitute, gaps, interleave]
  | cons m ms ih => rw [substitute, gaps, List.map_cons, interleave, ih]

/-- Where nothing is written, the gaps remain. -/
lemma interleave_of_forall_nil {gs ps : List (List Char)} (h : ∀ p ∈ ps, p = []) :
    interleave gs ps = gs.flatten := by
  induction ps generalizing gs with
  | nil => cases gs <;> rfl
  | cons p ps ih =>
      cases gs with
      | nil => rfl
      | cons g gs =>
          rw [interleave, h p List.mem_cons_self, ih fun q hq => h q (List.mem_cons_of_mem p hq),
            List.append_nil, List.flatten_cons]

/-- The text of a match. -/
def matched (text : Array Char) (m : Match) : List Char := between text m.start m.stop

/-- **Gaps and matches together are the text.** -/
theorem interleave_gaps_matched (h : InOrder text.size start ms) :
    interleave (gaps text start ms) (ms.map (matched text)) = between text start text.size := by
  induction ms generalizing start with
  | nil => simp [gaps, interleave]
  | cons m ms ih =>
      obtain ⟨hstart, hstop, hsize, hrest⟩ := h
      calc interleave (gaps text start (m :: ms)) ((m :: ms).map (matched text))
        _ = between text start m.start ++ between text m.start m.stop ++
              between text m.stop text.size := by
            rw [gaps, List.map_cons, interleave, matched, ih hrest]
        _ = between text start text.size := by
            rw [between_append_between hstart hstop,
              between_append_between (hstart.trans hstop) hsize]

/-! ## What is written -/

/-- What a rule writes for a match: its replacement with the groups of the match filled in, or
nothing if it deletes. -/
def writtenFor (rule : Rule) (regex : Regex) (text : Array Char) (m : Match) : List Char :=
  if rule.deletes then []
  else
    (Template.ofChars
        (templateText regex.groupCount (!regex.groupNames.isEmpty) rule.replacement.toList)).expand
      (fun n => (m.group? n).map fun g => between text g.1 g.2) (regex.groupNames.lookup ·)

lemma expansion_eq_writtenFor {index : ℕ} {rule : Rule} {variant : Variant} {wholeWords : Bool}
    {c : CompiledRule} (hc : CompiledRule.ofRule index rule variant wholeWords = .ok c)
    (text : Array Char) (m : Match) :
    c.expansion text m = writtenFor (rule.variant variant) c.regex text m := by
  obtain ⟨flags, regex, -, -, rfl⟩ := ofRule_eq_ok_iff.mp hc
  unfold CompiledRule.expansion templateOf writtenFor
  cases (rule.variant variant).deletes <;> rfl

/-! ## A pass -/

/-- **A pass replaces the matches that it reports.**  They are the matches that follow one another,
and nothing else is a list of such matches.  The gaps between them are kept, and in place of each
match stands what the rule writes for it. -/
theorem pass_joins_gaps {o : Options} {index : ℕ} {rule : Rule} {variant : Variant}
    {c : CompiledRule} (hc : CompiledRule.ofRule index rule variant o.wholeWords = .ok c)
    (r : Run) :
    let text := r.text.toList.toArray
    ∃ ms r', r.pass o index rule variant = .ok r' ∧
      (∀ ns, Successive c.regex.program text 0 none ns ↔ ns = ms) ∧ InOrder text.size 0 ms ∧
      r'.passes = r.passes ++ [⟨index, variant, ms.length⟩] ∧
      (gaps text 0 ms).length = ms.length + 1 ∧
      r.text.toList = interleave (gaps text 0 ms) (ms.map (matched text)) ∧
      r'.text.toList = interleave (gaps text 0 ms)
        (ms.map (writtenFor (rule.variant variant) c.regex text)) ∧
      (rule.deletes = true → r'.text.toList = (gaps text 0 ms).flatten) ∧
      (ms = [] → r'.text = r.text) := by
  intro text
  obtain ⟨e, he⟩ := exists_expr_of_ofRule hc
  have hms : Successive c.regex.program text 0 none (c.regex.find text) := by
    rw [Regex.find, he]
    exact successive_allMatches e text
  have hwritten : (r.after o index variant c).text.toList
      = interleave (gaps text 0 (c.regex.find text))
          ((c.regex.find text).map (writtenFor (rule.variant variant) c.regex text)) := by
    rw [Run.text_after, CompiledRule.replaceIn, String.toList_ofList, substitute_eq_interleave,
      funext (expansion_eq_writtenFor hc text)]
  refine ⟨c.regex.find text, r.after o index variant c, (Run.pass_eq_ok_iff o).mpr ⟨c, hc, rfl⟩,
    fun ns => ⟨fun h => h.unique hms, fun h => h ▸ hms⟩, hms.inOrder, rfl, length_gaps text 0 _,
    ?_, hwritten, ?_, ?_⟩
  · rw [interleave_gaps_matched hms.inOrder]
    simp [between, text]
  · intro hdeletes
    have hvariant : (rule.variant variant).deletes = true := by
      cases variant <;> exact hdeletes
    rw [hwritten]
    refine interleave_of_forall_nil fun p hp => ?_
    obtain ⟨m, -, rfl⟩ := List.mem_map.mp hp
    rw [writtenFor, if_pos hvariant]
  · intro hnil
    have hcount : (c.replaceIn r.text).1 = 0 := congrArg List.length hnil
    rw [Run.text_after, replaceIn_eq_of_count_eq_zero hcount]

/-- Empty matches at the beginning and beside a character of two bytes, and a match at the end of
the text, behind which there is no empty one. -/
theorem pass_joins_gaps_empty_matches :
    let rule : Rule := { pattern := "x*", replacement := "[$&]" }
    let text := "aöxx".toList.toArray
    ∃ c ms, CompiledRule.ofRule 0 rule .asWritten false = .ok c ∧
      Successive c.regex.program text 0 none ms ∧ ms.length = 3 ∧
      interleave (gaps text 0 ms) (ms.map (matched text)) = "aöxx".toList ∧
      interleave (gaps text 0 ms) (ms.map (writtenFor rule c.regex text))
        = "[]a[]ö[xx]".toList := by
  intro rule text
  let r : Run := { text := "aöxx" }
  obtain ⟨c, hc, -⟩ : ∃ c, CompiledRule.ofRule 0 rule .asWritten false = .ok c ∧
      c.regex.groupCount = 1 := exists_of_map_ofRule (by decide +kernel)
  obtain ⟨ms, r', hpass, hms, -, hpasses, -, hmatched, hwritten, -⟩ :=
    pass_joins_gaps (o := {}) hc r
  have hrun : r.pass {} 0 rule .asWritten
      = .ok { text := "[]a[]ö[xx]", passes := [⟨0, .asWritten, 3⟩] } := by decide +kernel
  obtain rfl := Except.ok.inj (hpass.symm.trans hrun)
  have hlength : 3 = ms.length := by simpa [r] using hpasses
  exact ⟨c, ms, hc, (hms ms).mpr rfl, hlength.symm, hmatched.symm, hwritten.symm⟩

end Scratchpad.Replace
