import Scratchpad.Proofs.Pattern.Enclosed
import Scratchpad.Proofs.Pattern.Successive
import Scratchpad.Proofs.Pattern.WordPattern
import Scratchpad.Proofs.Replace.Passes

/-!
# Matches of whole words

A pass for whole words searches for the pattern of its rule between word boundaries.  The pattern is
put there as it is written.  One that is a pattern by itself stays between the boundaries; one that
closes the group around it does not, and then matches parts of words.

* `AtWordBoundary` — the places where a word begins or ends.
* `Expr.whole`, `Expr.codeAt_whole` — an expression between word boundaries.
* `flagTrees`, `reads_of_readTree` — the flags before a pattern.
* `exists_whole_of_meaning` — what the pattern of whole words means.
* **`CompiledRule.atWordBoundary_of_mem_find`** — a pattern that is accepted by itself, too, matches
  whole words only.
-/

namespace Scratchpad.Pattern

open Unicode (isWordChar)

/-! ## Word boundaries -/

/-- Exactly one of the two characters beside a place is a word character.  Beyond the ends of the
text there is none. -/
def AtWordBoundary (text : Array Char) (place : ℕ) : Prop :=
  (before? text place).any isWordChar ≠ text[place]?.any isWordChar

instance (text : Array Char) (place : ℕ) : Decidable (AtWordBoundary text place) :=
  inferInstanceAs (Decidable (_ ≠ _))

lemma holdsAt_boundary_iff {text : Array Char} {place : ℕ} :
    (Look.word false .boundary).HoldsAt text place ↔ AtWordBoundary text place := by
  have hword : ∀ c : Option Char, inWord false c = c.any isWordChar := fun c => by
    cases c <;> rfl
  rw [Look.HoldsAt, Look.holds, WordEdge.holds, hword, hword, bne_iff_ne]
  rfl

/-! ## Sequences -/

/-- What comes later in a sequence is read with the flags that the rest leaves. -/
lemma exprsOf_append {s s' : Settings} {ts us : List Tree} {es : List Expr}
    (h : exprsOf s ts = .ok (es, s')) :
    exprsOf s (ts ++ us) = (do
      let (fs, s'') ← exprsOf s' us
      return (es ++ fs, s'')) := by
  induction ts generalizing s es with
  | nil =>
      cases h
      rw [List.nil_append]
      cases exprsOf s' us <;> rfl
  | cons t ts ih =>
      rw [exprsOf] at h
      obtain ⟨⟨e, s₁⟩, ht, h⟩ := exists_of_bind h
      obtain ⟨⟨es₁, s₂⟩, hts, h⟩ := exists_of_bind h
      cases h
      rw [List.cons_append, exprsOf, ht]
      simp only [bind, Except.bind, ih hts]
      cases exprsOf s' us <;> rfl

namespace Expr

/-- Nothing is no part of a sequence. -/
lemma ofList_append_of_empty {es : List Expr} (hes : ∀ e ∈ es, e = .empty) (fs : List Expr) :
    ofList (es ++ fs) = ofList fs := by
  induction es with
  | nil => rfl
  | cons e es ih =>
      rw [List.forall_mem_cons] at hes
      have hcons : ofList (e :: (es ++ fs)) = seq e (ofList (es ++ fs)) := rfl
      rw [List.cons_append, hcons, hes.1, ih hes.2]
      rfl

/-- The code of a sequence is the code of its parts, one behind the other. -/
lemma code_seq (a b : Expr) (start : ℕ) :
    (seq a b).code start = a.code start ++ b.code (start + (a.code start).length) := by
  unfold seq
  split
  · rfl
  · rw [code, List.append_nil]
  · rfl

lemma codeAt_program (e : Expr) : CodeAt e.program 0 (e.code 0 ++ [.accept]) := by
  intro k i hi
  rw [program, Nat.zero_add, List.getElem?_toArray, hi]

/-- An expression between word boundaries. -/
def whole (e : Expr) : Expr := seq boundary (seq e boundary)

/-- The program of an expression between word boundaries. -/
lemma codeAt_whole (e : Expr) :
    CodeAt e.whole.program 0 (.look (.word false .boundary) ::
      (e.code 1 ++ [.look (.word false .boundary), .accept])) := by
  have hcode : e.whole.code 0
      = .look (.word false .boundary) :: (e.code 1 ++ [.look (.word false .boundary)]) := by
    rw [whole, code_seq, code_seq]
    rfl
  have h := codeAt_program e.whole
  rw [hcode] at h
  simpa using h

end Expr

/-! ## The flags before a pattern -/

/-- The flags that a pattern sets for itself. -/
def flagsSet (f : PatternFlags) : List Flag :=
  (if f.ignoreCase then [.ignoreCase] else []) ++ (if f.multiLine then [.multiLine] else []) ++
    if f.dotAll then [.dotAll] else []

/-- Flags as they are read, the first one at the given offset. -/
def flagItems : (offset : ℕ) → List Flag → List FlagItem
  | _, [] => []
  | offset, flag :: flags =>
    ⟨⟨.ascii offset, .ascii (offset + 1)⟩, some flag⟩ :: flagItems (offset + 1) flags

/-- What has been read behind the flags. -/
def flagTrees (f : PatternFlags) : List Tree :=
  match flagsSet f with
  | [] => []
  | flags => [.flags ⟨.first, .ascii (flags.length + 3)⟩ (flagItems 2 flags)]

/-- The reader behind the flags. -/
def Reader.behindFlags (f : PatternFlags) (cs : List Char) : Reader :=
  ⟨⟨cs, .ascii f.directive.toList.length⟩, false, 0, [], [], ⟨.first, flagTrees f⟩⟩

/-- The flags are read in one step, if there are any. -/
lemma run_directive (f : PatternFlags) (cs : List Char) (fuel : ℕ) :
    (Reader.ofPattern (f.directive.toList ++ cs)).run (fuel + (flagTrees f).length)
      = (Reader.behindFlags f cs).run fuel := by
  obtain ⟨i, m, s⟩ := f
  cases i <;> cases m <;> cases s <;> rfl

lemma length_flagTrees_le (f : PatternFlags) :
    (flagTrees f).length ≤ f.directive.toList.length := by
  obtain ⟨i, m, s⟩ := f
  cases i <;> cases m <;> cases s <;> decide

/-- Flags mean nothing themselves, and they leave Unicode on. -/
lemma exprsOf_flagTrees (f : PatternFlags) :
    ∃ es s, exprsOf {} (flagTrees f).reverse = .ok (es, s) ∧ (∀ e ∈ es, e = .empty) ∧
      s.unicode = true := by
  obtain ⟨i, m, s⟩ := f
  cases i <;> cases m <;> cases s
  · exact ⟨[], {}, rfl, by simp, rfl⟩
  all_goals exact ⟨[.empty], _, rfl, by simp, rfl⟩

/-- A pattern is read behind its flags, with fuel for all of it. -/
lemma reads_of_readTree {f : PatternFlags} {cs : List Char} {t : Tree}
    (h : readTree (f.directive.toList ++ cs) = .ok t) :
    (Reader.behindFlags f cs).Reads
      (f.directive.toList.length - (flagTrees f).length + cs.length) t := by
  have hlength := length_flagTrees_le f
  have hfuel : (f.directive.toList ++ cs).length
      = f.directive.toList.length - (flagTrees f).length + cs.length + (flagTrees f).length := by
    rw [List.length_append]
    omega
  rwa [readTree, hfuel, run_directive] at h

/-! ## The pattern of whole words -/

/-- The tree of a pattern between word boundaries, behind its flags, means what it looks like. -/
lemma exists_whole_of_toExpr {f : PatternFlags} {span : Span} {t : Tree} {e : Expr} {s : Settings}
    (h : Reader.EndsEnclosed (.atom (.assertion span .wordBoundary) :: flagTrees f) t)
    (he : t.toExpr {} = .ok (e, s)) : ∃ e', e = .whole e' := by
  obtain ⟨span₁, span₂, span₃, inner, rfl⟩ := h
  obtain ⟨es, s₁, hes, hempty, hunicode⟩ := exprsOf_flagTrees f
  have hlook : Assertion.wordBoundary.toLook s₁ = .word false .boundary := by
    simp [Assertion.toLook, hunicode]
  rw [List.reverse_cons, List.append_assoc, Tree.toExpr, exprsOf_append hes] at he
  cases hinner : inner.toExpr s₁ with
  | error failure =>
      simp [exprsOf, Tree.toExpr, Atom.toExpr, GroupKind.settings, Settings.apply, hinner, bind,
        Except.bind, pure, Except.pure] at he
  | ok r =>
      simp [exprsOf, Tree.toExpr, Atom.toExpr, GroupKind.settings, GroupKind.wrap, Settings.apply,
        hinner, hlook, bind, Except.bind, pure, Except.pure] at he
      obtain ⟨rfl, -⟩ := he
      refine ⟨r.1, ?_⟩
      rw [Expr.ofList_append_of_empty hempty]
      rfl

/-- **A pattern that can be read by itself** means the same between word boundaries as without
them, and stays between them. -/
theorem exists_whole_of_meaning {f : PatternFlags} {cs : List Char} {t : Tree} {e : Expr}
    (ht : readTree (f.directive.toList ++ cs) = .ok t)
    (he : Regex.meaning (f.directive.toList ++ (Reader.opening ++ (cs ++ Cursor.closing)))
      = .ok e) : ∃ e', e = .whole e' := by
  rw [Regex.meaning] at he
  obtain ⟨t', ht', he⟩ := exists_of_bind he
  obtain ⟨-, -, he⟩ := exists_of_bind he
  obtain ⟨⟨e', s⟩, hexpr, he⟩ := exists_of_bind he
  cases he
  have hr := reads_of_readTree ht
  have hs := reads_of_readTree ht'
  have hlength : (Reader.opening ++ (cs ++ Cursor.closing)).length = cs.length + 8 := by
    simp [Reader.opening, Cursor.closing]
  rw [hlength, ← Nat.add_assoc] at hs
  obtain ⟨span, hends⟩ := hr.endsEnclosed_of_whole (Nat.le_add_left _ _) hs
  exact exists_whole_of_toExpr hends hexpr

end Scratchpad.Pattern

namespace Scratchpad.Replace

open Pattern

/-- **A pass for whole words matches whole words only**, if its pattern is accepted by itself,
too. -/
theorem CompiledRule.atWordBoundary_of_mem_find {index : ℕ} {rule : Rule} {variant : Variant}
    {c d : CompiledRule} (hwhole : CompiledRule.ofRule index rule variant true = .ok c)
    (halone : CompiledRule.ofRule index rule variant false = .ok d) {text : Array Char} {m : Match}
    (hm : m ∈ c.regex.find text) :
    AtWordBoundary text m.start ∧ AtWordBoundary text m.stop := by
  obtain ⟨flags, regex, hflags, hregex, rfl⟩ := ofRule_eq_ok_iff.mp hwhole
  obtain ⟨flags', regex', hflags', hregex', -⟩ := ofRule_eq_ok_iff.mp halone
  rw [hflags, Except.ok.injEq] at hflags'
  subst hflags'
  obtain ⟨e, he, rfl⟩ := exists_meaning_of_compile hregex
  obtain ⟨e', he', -⟩ := exists_meaning_of_compile hregex'
  obtain ⟨t, ht, -⟩ := exists_of_bind he'
  have hpattern : (effectivePattern flags true (rule.variant variant).pattern).toList
      = flags.directive.toList ++
        (Reader.opening ++ ((rule.variant variant).pattern.toList ++ Cursor.closing)) := by
    simp [effectivePattern, Reader.opening, Cursor.closing]
  rw [hpattern] at he
  rw [effectivePattern, String.toList_append] at ht
  obtain ⟨e, rfl⟩ := exists_whole_of_meaning ht he
  obtain ⟨hstart, hstop⟩ := holds_of_isWay (Expr.codeAt_whole e) (isWay_of_mem_allMatches hm)
  exact ⟨holdsAt_boundary_iff.mp hstart, holdsAt_boundary_iff.mp hstop⟩

/-- One of two alternatives is found as a word.  The other one, which the pattern finds by itself,
begins a longer word. -/
theorem CompiledRule.atWordBoundary_of_alternatives :
    let rule : Rule := { pattern := "cat|dog", replacement := "X" }
    let text := "cat dogs".toList.toArray
    ∃ c d, ofRule 0 rule .asWritten true = .ok c ∧ ofRule 0 rule .asWritten false = .ok d ∧
      c.regex.find text = [⟨0, 3, []⟩] ∧ AtWordBoundary text 0 ∧ AtWordBoundary text 3 := by
  intro rule text
  obtain ⟨c, hc, hfind⟩ : ∃ c, ofRule 0 rule .asWritten true = .ok c ∧
      c.regex.find text = [⟨0, 3, []⟩] := exists_of_map_ofRule (by decide +kernel)
  obtain ⟨d, hd, -⟩ : ∃ d, ofRule 0 rule .asWritten false = .ok d ∧
      d.regex.find text = [⟨0, 3, []⟩, ⟨4, 7, []⟩] := exists_of_map_ofRule (by decide +kernel)
  have hm : (⟨0, 3, []⟩ : Match) ∈ c.regex.find text := by
    rw [hfind]
    exact List.mem_singleton_self _
  exact ⟨c, d, hc, hd, hfind, atWordBoundary_of_mem_find hc hd hm⟩

/-- A pattern that closes the group it is put into is not accepted by itself.  In a pass for whole
words it is, and its first alternative then ends inside a word. -/
theorem CompiledRule.matches_part_of_word :
    let rule : Rule := { pattern := "cat)|(?:dog", replacement := "X" }
    let text := "category".toList.toArray
    (ofRule 0 rule .asWritten false).toOption = none ∧
      ∃ c, ofRule 0 rule .asWritten true = .ok c ∧
        c.regex.find text = [⟨0, 3, []⟩] ∧ ¬ AtWordBoundary text 3 := by
  intro rule text
  obtain ⟨c, hc, hfind⟩ : ∃ c, ofRule 0 rule .asWritten true = .ok c ∧
      c.regex.find text = [⟨0, 3, []⟩] := exists_of_map_ofRule (by decide +kernel)
  exact ⟨by decide +kernel, c, hc, hfind, by decide +kernel⟩

end Scratchpad.Replace
