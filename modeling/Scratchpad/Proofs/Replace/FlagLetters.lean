import Scratchpad.Proofs.Replace.Refusal

/-!
# Flag letters that say the same

Flag letters are read as a set, of which `g` and `u` are no part.  A rule whose letters are spelled
in another way is the same rule to a run, and only the log, which shows rules as they are written,
can tell the two spellings apart.

* `SaySame`, `SaySame.ofLetters_eq` — two spellings, and that they are read alike.
* `Rule.Respelled`, `LogEntry.Respelled`, `Run.Respelled` — the same but for the spelling.
* `Agree` — two results that are the same failure, or that are related.
* `ofRule_of_respelled`, `Run.Respelled.pass`, `Run.Respelled.runJobs` — a rule that is respelled
  compiles alike, so that a pass goes alike, and hence a run.
* **`applyRules_respelled`** — the two spellings in a pass, and in a rule set.
-/

namespace Scratchpad

open Replace (CompiledRule)

/-! ## Spellings -/

/-- Two spellings of the same flags: known letters, some on either side, with the same ones of `i`,
`m` and `s` among them. -/
structure SaySame (letters letters' : String) : Prop where
  ne_empty : letters ≠ "" ∧ letters' ≠ ""
  known : ∀ c ∈ letters.toList ++ letters'.toList, c ∈ flagLetters
  same : ∀ c ∈ ['i', 'm', 's'], (c ∈ letters.toList ↔ c ∈ letters'.toList)

section

variable {letters letters' : String}

/-- The two spellings are read as the same flags. -/
lemma SaySame.ofLetters_eq (h : SaySame letters letters') :
    PatternFlags.ofLetters letters = PatternFlags.ofLetters letters' := by
  have hread : ∀ l : String, (∀ c ∈ l.toList, c ∈ flagLetters) →
      PatternFlags.ofLetters l = .ok (.asked l) := fun l hl => by
    have hnone : l.toList.find? (· ∉ flagLetters) = none := by simpa using hl
    rw [PatternFlags.ofLetters_eq, hnone]
  have hasked : PatternFlags.asked letters = PatternFlags.asked letters' := by
    have hi := h.same 'i' (by decide)
    have hm := h.same 'm' (by decide)
    have hs := h.same 's' (by decide)
    simp [PatternFlags.asked, h.ne_empty, hi, hm, hs]
  rw [hread letters fun c hc => h.known c (List.mem_append_left _ hc),
    hread letters' fun c hc => h.known c (List.mem_append_right _ hc), hasked]

/-- A rule with other flag letters. -/
def Rule.withFlags (r : Rule) (letters : String) : Rule := { r with patternFlags := letters }

lemma Rule.variant_withFlags (r : Rule) (letters : String) (variant : Variant) :
    (r.withFlags letters).variant variant = (r.variant variant).withFlags letters := by
  cases variant <;> rfl

/-- The same rule, or one rule in each of the two spellings. -/
def Rule.Respelled (letters letters' : String) (r r' : Rule) : Prop :=
  r = r' ∨ ∃ s : Rule, r = s.withFlags letters ∧ r' = s.withFlags letters'

lemma Rule.Respelled.variant {r r' : Rule} (h : r.Respelled letters letters' r')
    (variant : Variant) :
    (r.variant variant).Respelled letters letters' (r'.variant variant) := by
  rcases h with rfl | ⟨s, rfl, rfl⟩
  · exact .inl rfl
  · exact .inr ⟨s.variant variant, s.variant_withFlags _ _, s.variant_withFlags _ _⟩

/-- The same entry, or one that shows a rule in each of the two spellings. -/
def LogEntry.Respelled (letters letters' : String) (e e' : LogEntry) : Prop :=
  e = e' ∨ ∃ r : Rule, e.description = (r.withFlags letters).describe ∧
    e' = { e with description := (r.withFlags letters').describe }

/-- Two runs with the same text and the same passes, whose logs differ in the spelling only. -/
structure Run.Respelled (letters letters' : String) (a b : Run) : Prop where
  text : a.text = b.text
  passes : a.passes = b.passes
  log : List.Forall₂ (LogEntry.Respelled letters letters') a.log b.log

lemma Run.Respelled.refl (letters letters' : String) (a : Run) :
    a.Respelled letters letters' a where
  text := rfl
  passes := rfl
  log := List.forall₂_same.mpr fun _ _ => .inl rfl

/-! ## Results that agree -/

/-- The same failure, or results that are related. -/
def Agree {α β : Type} (R : α → β → Prop) : Except Error α → Except Error β → Prop
  | .ok a, .ok b => R a b
  | .error e, .error f => e = f
  | _, _ => False

lemma Agree.bind {α β γ δ : Type} {R : α → β → Prop} {S : γ → δ → Prop} {x : Except Error α}
    {y : Except Error β} {f : α → Except Error γ} {g : β → Except Error δ} (h : Agree R x y)
    (hfg : ∀ a b, R a b → Agree S (f a) (g b)) : Agree S (x >>= f) (y >>= g) := by
  cases x with
  | error e =>
      cases y with
      | error e' => exact h
      | ok b => exact h.elim
  | ok a =>
      cases y with
      | error e' => exact h.elim
      | ok b => exact hfg a b h

/-! ## A pass, and a run -/

/-- A rule that is respelled compiles to the same, or fails for the same reason.  Only the text that
is shown in the log is another one. -/
lemma ofRule_of_respelled (h : SaySame letters letters') {r r' : Rule}
    (hr : r.Respelled letters letters' r') (index : ℕ) (variant : Variant) (wholeWords : Bool) :
    CompiledRule.ofRule index r' variant wholeWords
      = (CompiledRule.ofRule index r variant wholeWords).map
          ({ · with description := (r'.variant variant).describe }) := by
  rcases hr with rfl | ⟨s, rfl, rfl⟩
  · cases hc : CompiledRule.ofRule index r variant wholeWords with
    | error e => rfl
    | ok c =>
        rw [← description_of_ofRule hc]
        rfl
  · have hflags : PatternFlags.ofLetters (s.withFlags letters').patternFlags
        = PatternFlags.ofLetters (s.withFlags letters).patternFlags := h.ofLetters_eq.symm
    unfold CompiledRule.ofRule
    rw [hflags, Rule.variant_withFlags, Rule.variant_withFlags]
    cases PatternFlags.ofLetters (s.withFlags letters).patternFlags with
    | error flag => rfl
    | ok flags =>
        dsimp only [Rule.withFlags]
        split <;> rfl

namespace Run.Respelled

variable {o : Options} {a b : Run}

/-- What a pass leaves differs in the spelling only, if this is all that its rule differs in. -/
lemma after (h : a.Respelled letters letters' b) {r r' : Rule}
    (hr : r.Respelled letters letters' r') {c : CompiledRule} (hc : c.description = r.describe)
    (index : ℕ) (variant : Variant) :
    (a.after o index variant c).Respelled letters letters'
      (b.after o index variant { c with description := r'.describe }) := by
  -- what is found does not depend on how the rule is shown
  have hfound : ({ c with description := r'.describe } : CompiledRule).replaceIn b.text
      = c.replaceIn a.text := by
    rw [h.text]
    rfl
  have hentry : ∀ n, LogEntry.Respelled letters letters' ⟨index, n, c.description⟩
      ⟨index, n, r'.describe⟩ := by
    intro n
    rcases hr with rfl | ⟨s, rfl, rfl⟩
    · exact .inl (by rw [hc])
    · exact .inr ⟨s, hc, rfl⟩
  refine ⟨?_, ?_, ?_⟩
  · simp only [Run.after, hfound, h.text]
  · simp only [Run.after, hfound, h.passes]
  · simp only [Run.after, hfound]
    split
    · exact List.rel_append h.log (.cons (hentry _) .nil)
    · exact h.log

/-- **A pass goes alike** with a rule that is respelled. -/
theorem pass (hsame : SaySame letters letters') (h : a.Respelled letters letters' b) {r r' : Rule}
    (hr : r.Respelled letters letters' r') (index : ℕ) (variant : Variant) :
    Agree (Run.Respelled letters letters') (a.pass o index r variant)
      (b.pass o index r' variant) := by
  rw [pass_eq_map, pass_eq_map, ofRule_of_respelled hsame hr]
  cases hc : CompiledRule.ofRule index r variant o.wholeWords with
  | error e => exact rfl
  | ok c => exact h.after (hr.variant variant) (description_of_ofRule hc) index variant

/-- **Jobs go alike** if each of them has a rule that is respelled, or the same one. -/
theorem runJobs (hsame : SaySame letters letters') {js js' : List Job}
    (hjs : List.Forall₂ (fun j j' => j.index = j'.index ∧ j.variant = j'.variant ∧
      j.rule.Respelled letters letters' j'.rule) js js') (h : a.Respelled letters letters' b) :
    Agree (Run.Respelled letters letters') (a.runJobs o js) (b.runJobs o js') := by
  induction hjs generalizing a b with
  | nil => exact h
  | @cons j j' js js' hj _ ih =>
      obtain ⟨hindex, hvariant, hrule⟩ := hj
      rw [runJobs_cons, runJobs_cons, ← hindex, ← hvariant]
      exact (h.pass hsame hrule j.index j.variant).bind fun _ _ => ih

end Run.Respelled

/-- The jobs of two rule sets side by side. -/
lemma forall₂_jobs_respelled {rs rs' : List Rule}
    (h : List.Forall₂ (Rule.Respelled letters letters') rs rs') (preserveCase : Bool) (index : ℕ) :
    List.Forall₂ (fun j j' => j.index = j'.index ∧ j.variant = j'.variant ∧
      j.rule.Respelled letters letters' j'.rule)
      (jobs preserveCase index rs) (jobs preserveCase index rs') := by
  induction h generalizing index with
  | nil => exact .nil
  | @cons r r' rs rs' hr _ ih =>
      rw [jobs, jobs, ruleJobs_eq_map, ruleJobs_eq_map]
      refine List.rel_append ?_ (ih (index + 1))
      rw [List.forall₂_map_left_iff, List.forall₂_map_right_iff]
      exact List.forall₂_same.mpr fun variant _ => ⟨rfl, rfl, hr⟩

/-- **How the flag letters of a rule are spelled makes no difference**, be it their order, how often
they are repeated, or that `g` and `u` are among them.  With either spelling a pass of the rule goes
through, or it fails with the same error; and so does a run of a rule set with the rule in it.  It
leaves the same text with the same numbers of matches, and in the log nothing but the letters of the
rule differs. -/
theorem applyRules_respelled (h : SaySame letters letters') (rule : Rule) (o : Options) :
    (∀ (index : ℕ) (variant : Variant) (r : Run), Agree (Run.Respelled letters letters')
      (r.pass o index (rule.withFlags letters) variant)
      (r.pass o index (rule.withFlags letters') variant)) ∧
    ∀ (before behind : List Rule) (subject : String), Agree (Run.Respelled letters letters')
      (applyRules (before ++ rule.withFlags letters :: behind) subject o)
      (applyRules (before ++ rule.withFlags letters' :: behind) subject o) := by
  have hrule : (rule.withFlags letters).Respelled letters letters' (rule.withFlags letters') :=
    .inr ⟨rule, rfl, rfl⟩
  have hkept : ∀ rs : List Rule, List.Forall₂ (Rule.Respelled letters letters') rs rs := fun rs =>
    List.forall₂_same.mpr fun _ _ => .inl rfl
  refine ⟨fun index variant r => (Run.Respelled.refl _ _ r).pass h hrule index variant, ?_⟩
  intro before behind subject
  rw [applyRules, applyRules, Run.rules_eq_runJobs, Run.rules_eq_runJobs]
  exact (Run.Respelled.refl _ _ _).runJobs h
    (forall₂_jobs_respelled (List.rel_append (hkept before) (.cons hrule (hkept behind))) _ 0)

end

/-- Another order, a letter that is repeated, and `u` instead of `g`: with both spellings a dot
matches the line break, as written and capitalized. -/
theorem applyRules_respelled_repeated :
    let rule : Rule := { pattern := "a.", replacement := "$&!" }
    SaySame "mgs" "ssum" ∧
      ∃ a b, applyRules [rule.withFlags "mgs"] "A\na." ⟨false, true, true⟩ = .ok a ∧
        applyRules [rule.withFlags "ssum"] "A\na." ⟨false, true, true⟩ = .ok b ∧
        a.Respelled "mgs" "ssum" b ∧ a.text = "A\n!a.!" ∧
        b.log.map (·.description) = ["\"a.\"ssum->\"$&!\"", "\"A.\"ssum->\"$&!\""] := by
  intro rule
  have hsame : SaySame "mgs" "ssum" := ⟨by decide, by simp [flagLetters], by simp⟩
  let run (letters : String) : Run := ⟨"A\n!a.!",
    [⟨0, 1, "\"a.\"" ++ letters ++ "->\"$&!\""⟩, ⟨0, 1, "\"A.\"" ++ letters ++ "->\"$&!\""⟩],
    [⟨0, .asWritten, 1⟩, ⟨0, .capitalized, 1⟩]⟩
  have ha : applyRules [rule.withFlags "mgs"] "A\na." ⟨false, true, true⟩ = .ok (run "mgs") := by
    decide +kernel
  have hb : applyRules [rule.withFlags "ssum"] "A\na." ⟨false, true, true⟩ = .ok (run "ssum") := by
    decide +kernel
  have hagree := (applyRules_respelled hsame rule ⟨false, true, true⟩).2 [] [] "A\na."
  rw [List.nil_append, List.nil_append, ha, hb] at hagree
  exact ⟨hsame, run "mgs", run "ssum", ha, hb, hagree, rfl, by decide +kernel⟩

/-- No letters at all ask for more than `g` does. -/
example : PatternFlags.ofLetters "" ≠ PatternFlags.ofLetters "g" := by decide

end Scratchpad
