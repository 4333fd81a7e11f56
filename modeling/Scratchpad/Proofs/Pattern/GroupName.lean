import Scratchpad.Pattern.Regex
import Scratchpad.Proofs.Pattern.Followed
import Scratchpad.Proofs.Pattern.NameChar

/-!
# The names of groups

A name that a group has in a compiled pattern was read as the name of a group, in whatever group or
branch it stands.  It begins with a letter or an underscore, so that it is no number, and no brace
is in it.

* `IsGroupName`, `isGroupName_of_readOpening` — names that can be read.
* `Tree.WellNamed`, `Reader.WellNamed.step` — each step of the reader keeps to such names.
* `Tree.WellNamed.expr` — what a tree means has no other names.
* **`isGroupName_of_meaning`** — the names of the groups of a pattern.
-/

namespace Scratchpad.Pattern

open Unicode (CharSet)

/-! ## Names that can be read -/

/-- What can be the name of a group: not every character that may stand in a name can begin it. -/
def IsGroupName (name : List Char) : Prop :=
  ∃ c cs, name = c :: cs ∧ isNameChar true c = true ∧ ∀ d ∈ cs, isNameChar false d = true

lemma IsGroupName.notMem_brace {name : List Char} (h : IsGroupName name) : '\x7d' ∉ name := by
  obtain ⟨c, cs, rfl, hc, hcs⟩ := h
  intro hmem
  rcases List.mem_cons.mp hmem with rfl | hmem
  · rw [not_isNameChar_brace] at hc
    cases hc
  · have hd := hcs _ hmem
    rw [not_isNameChar_brace] at hd
    cases hd

lemma isNameChar_of_readNameChars {first : Bool} {cs : List Char} {p : Position} {c : Char}
    {name : List Char} {d : Cursor} (h : readNameChars first cs p = .ok (c :: name, d)) :
    isNameChar first c = true ∧ ∀ x ∈ name, isNameChar false x = true := by
  induction cs generalizing first p c name d with
  | nil => cases h
  | cons x cs ih =>
      rw [readNameChars] at h
      split_ifs at h with hend hchar
      · cases h
      · cases hmore : readNameChars false cs (p.after x) with
        | error e =>
            rw [hmore] at h
            cases h
        | ok more =>
            obtain ⟨behind, e⟩ := more
            rw [hmore] at h
            cases h
            refine ⟨hchar, ?_⟩
            cases name with
            | nil => simp
            | cons y ys => exact List.forall_mem_cons.mpr (ih hmore)

lemma isGroupName_of_readName {names : List (String × Span)} {c d : Cursor} {name : String}
    {span : Span} (h : readName names c = .ok (name, span, d)) : IsGroupName name.toList := by
  unfold readName at h
  cases hchars : readNameChars true c.rest c.pos with
  | error e =>
      rw [hchars] at h
      cases h
  | ok read =>
      obtain ⟨chars, e⟩ := read
      rw [hchars] at h
      dsimp only at h
      split_ifs at h with hempty
      split at h
      · cases h
      · cases h
        cases chars with
        | nil => exact absurd rfl hempty
        | cons x xs => exact ⟨x, xs, String.toList_ofList, isNameChar_of_readNameChars hchars⟩

/-- **Whatever opens a group with a name**, the name is a proper one. -/
lemma isGroupName_of_readOpening {extended : Bool} {names : List (String × Span)} {c d : Cursor}
    {name : String} {span : Span}
    (h : readOpening extended names c = .ok (.capture (some (name, span)), d)) :
    IsGroupName name.toList := by
  unfold readOpening at h
  dsimp only at h
  split at h
  · cases h
  · split at h
    · obtain ⟨⟨name', span', d'⟩, hname, h⟩ := exists_of_bind h
      cases h
      exact isGroupName_of_readName hname
    · -- only flags are read from here on, if anything
      split at h
      · cases h
      · split_ifs at h
        · cases h
        · obtain ⟨-, -, h⟩ := exists_of_bind h
          obtain ⟨⟨items, d'⟩, -, h⟩ := exists_of_bind h
          dsimp only at h
          split_ifs at h
          · cases h
          · cases h
          · cases h

/-! ## Names in a tree -/

/-- If the group has a name, it is a proper one. -/
def GroupKind.WellNamed (kind : GroupKind) : Prop :=
  ∀ index name, kind = .capture index (some name) → IsGroupName name.toList

/-- All groups of the tree that have names have proper ones. -/
inductive Tree.WellNamed : Tree → Prop
  | empty (span) : WellNamed (.empty span)
  | flags (span items) : WellNamed (.flags span items)
  | atom (a) : WellNamed (.atom a)
  | brackets (span negated inner) : WellNamed (.brackets span negated inner)
  | repetition (span least most greedy) {inner} (h : WellNamed inner) :
      WellNamed (.repetition span least most greedy inner)
  | group (span) {kind inner} (hkind : kind.WellNamed) (h : WellNamed inner) :
      WellNamed (.group span kind inner)
  | alternation (span) {branches} (h : ∀ t ∈ branches, WellNamed t) :
      WellNamed (.alternation span branches)
  | concat (span) {items} (h : ∀ t ∈ items, WellNamed t) : WellNamed (.concat span items)

/-- What is read in brackets is a set, and no group. -/
lemma exists_brackets_of_step {extended : Bool} {r : BracketReader} {t : Tree} {c : Cursor}
    (h : r.step extended = .ok (.inr (t, c))) :
    ∃ span negated inner, t = .brackets span negated inner := by
  have hclose : ∀ r : BracketReader, closeBracket r = .inr (t, c) →
      ∃ span negated inner, t = .brackets span negated inner := by
    intro r h
    unfold closeBracket at h
    dsimp only at h
    split at h
    · split_ifs at h
      cases h
      exact ⟨_, _, _, rfl⟩
    · cases h
      exact ⟨_, _, _, rfl⟩
  have hinl : ∀ x : Except Failure BracketReader, (Sum.inl <$> x : Except Failure
      (BracketReader ⊕ (Tree × Cursor))) ≠ .ok (.inr (t, c)) := by
    intro x hx
    cases x <;> cases hx
  unfold BracketReader.step at h
  dsimp only at h
  split at h
  · cases h
  · split at h
    · cases h
    · exact absurd h (hinl _)
  · exact hclose _ (Except.ok.inj h)
  · cases h
  · cases h
  · cases h
  · exact absurd h (hinl _)

lemma BracketReader.wellNamed_of_run {extended : Bool} {fuel : ℕ} {r : BracketReader} {t : Tree}
    {c : Cursor} (h : r.run extended fuel = .ok (t, c)) : t.WellNamed := by
  induction fuel generalizing r with
  | zero => cases h
  | succ fuel ih =>
      rw [BracketReader.run] at h
      split at h
      · cases h
      · next done hstep =>
        cases h
        obtain ⟨span, negated, inner, rfl⟩ := exists_brackets_of_step hstep
        exact .brackets span negated inner
      · next r' hstep => exact ih h

lemma wellNamed_of_readBrackets {extended : Bool} {c d : Cursor} {t : Tree}
    (h : readBrackets extended c = .ok (t, d)) : t.WellNamed := by
  unfold readBrackets at h
  split at h
  · cases h
  · exact BracketReader.wellNamed_of_run h

/-! ## The reader -/

/-- All groups of the items that have names have proper ones. -/
def Sequence.WellNamed (s : Sequence) : Prop := ∀ t ∈ s.items, t.WellNamed

/-- The same for what waits on the stack, an open group itself included. -/
def Frame.WellNamed : Frame → Prop
  | .group outer _ kind _ => outer.WellNamed ∧ kind.WellNamed
  | .branches _ done => ∀ t ∈ done, t.WellNamed

/-- All groups that have been read so far, and those that are open, have proper names. -/
structure Reader.WellNamed (r : Reader) : Prop where
  frames : ∀ f ∈ r.frames, f.WellNamed
  current : r.current.WellNamed

namespace Sequence.WellNamed

variable {s : Sequence}

lemma push (h : s.WellNamed) {t : Tree} (ht : t.WellNamed) : (s.push t).WellNamed :=
  List.forall_mem_cons.mpr ⟨ht, h⟩

lemma toTree (h : s.WellNamed) (stop : Position) : (s.toTree stop).WellNamed := by
  unfold Sequence.toTree
  split
  · exact .empty _
  · next item hitem => exact h item (by simp [hitem])
  · exact .concat _ fun t ht => h t (List.mem_reverse.mp ht)

end Sequence.WellNamed

section

open Reader

variable {r s : Reader}

lemma wellNamed_closeBranches {current : Sequence} {frames : List Frame} (stop : Position)
    (hcurrent : current.WellNamed) (hframes : ∀ f ∈ frames, f.WellNamed) :
    (closeBranches stop current frames).1.WellNamed ∧
      ∀ f ∈ (closeBranches stop current frames).2, f.WellNamed := by
  unfold closeBranches
  dsimp only
  split
  · obtain ⟨hdone, hframes⟩ := List.forall_mem_cons.mp hframes
    refine ⟨.alternation _ fun t ht => ?_, hframes⟩
    rcases List.mem_cons.mp (List.mem_reverse.mp ht) with rfl | ht
    · exact hcurrent.toTree stop
    · exact hdone t ht
  · exact ⟨hcurrent.toTree stop, hframes⟩

namespace Reader.WellNamed

lemma nextBranch (h : r.WellNamed) : r.nextBranch.WellNamed := by
  have hbranch := h.current.toTree r.cursor.pos
  refine ⟨?_, by simp [Reader.nextBranch, Sequence.WellNamed]⟩
  unfold Reader.nextBranch
  dsimp only
  split
  · next start done frames hframes =>
    have hall := h.frames
    rw [hframes, List.forall_mem_cons] at hall
    exact List.forall_mem_cons.mpr ⟨List.forall_mem_cons.mpr ⟨hbranch, hall.1⟩, hall.2⟩
  · exact List.forall_mem_cons.mpr ⟨by simpa [Frame.WellNamed] using hbranch, h.frames⟩

lemma openGroup (h : r.WellNamed) (hopen : r.openGroup = .ok s) : s.WellNamed := by
  obtain ⟨⟨opening, d⟩, hopening, hs⟩ := exists_of_bind hopen
  have henter : ∀ kind : GroupKind, kind.WellNamed →
      ∀ f ∈ Frame.group r.current r.cursor.charSpan kind r.extended :: r.frames, f.WellNamed :=
    fun kind hkind => List.forall_mem_cons.mpr ⟨⟨h.current, hkind⟩, h.frames⟩
  have hempty : Sequence.WellNamed ⟨d.pos, []⟩ := by simp [Sequence.WellNamed]
  cases opening with
  | directive items =>
      cases hs
      exact ⟨h.frames, h.current.push (.flags _ items)⟩
  | flagged items =>
      cases hs
      exact ⟨henter _ (by rintro _ _ ⟨⟩), hempty⟩
  | capture name =>
      cases hs
      refine ⟨henter _ ?_, hempty⟩
      rintro _ name' hname'
      cases name with
      | none => cases hname'
      | some named =>
          cases hname'
          exact isGroupName_of_readOpening hopening

lemma closeGroup (h : r.WellNamed) (hclose : r.closeGroup = .ok s) : s.WellNamed := by
  have hbranches := wellNamed_closeBranches r.cursor.pos h.current h.frames
  unfold Reader.closeGroup at hclose
  dsimp only at hclose
  split at hclose
  · next outer paren kind extended frames hframes =>
    rw [hframes] at hbranches
    obtain ⟨hinner, hframes⟩ := hbranches
    obtain ⟨⟨houter, hkind⟩, hframes⟩ := List.forall_mem_cons.mp hframes
    cases hclose
    exact ⟨hframes, houter.push (.group _ hkind hinner)⟩
  · cases hclose

lemma repeatLast (h : r.WellNamed) (hrepeat : r.repeatLast = .ok s) : s.WellNamed := by
  unfold Reader.repeatLast at hrepeat
  dsimp only at hrepeat
  split at hrepeat
  · cases hrepeat
  · cases hrepeat
  · cases hrepeat
  · next item items _ _ hitems =>
    obtain ⟨⟨rep, d⟩, -, hs⟩ := exists_of_bind hrepeat
    cases hs
    have hall := h.current
    rw [Sequence.WellNamed, hitems, List.forall_mem_cons] at hall
    exact ⟨h.frames, List.forall_mem_cons.mpr ⟨.repetition _ _ _ _ hall.1, hall.2⟩⟩

/-- **Each step of the reader** keeps to proper names. -/
lemma step (h : r.WellNamed) (hstep : r.step = .ok s) : s.WellNamed := by
  unfold Reader.step at hstep
  dsimp only at hstep
  have h : Reader.WellNamed { r with cursor := r.cursor.skipSpace r.extended } :=
    ⟨h.frames, h.current⟩
  split at hstep
  · cases hstep
    exact h
  · split_ifs at hstep
    · exact h.openGroup hstep
    · exact h.closeGroup hstep
    · cases hstep
      exact h.nextBranch
    · obtain ⟨⟨set, c⟩, hset, hs⟩ := exists_of_bind hstep
      cases hs
      exact ⟨h.frames, h.current.push (wellNamed_of_readBrackets hset)⟩
    · exact h.repeatLast hstep
    · obtain ⟨⟨a, c⟩, -, hs⟩ := exists_of_bind hstep
      cases hs
      exact ⟨h.frames, h.current.push (.atom a)⟩

lemma run (h : r.WellNamed) {fuel : ℕ} (hrun : r.run fuel = .ok s) : s.WellNamed := by
  induction fuel generalizing r with
  | zero =>
      cases hrun
      exact h
  | succ fuel ih =>
      rw [Reader.run] at hrun
      split_ifs at hrun
      · cases hrun
        exact h
      · cases hstep : r.step with
        | error e =>
            rw [hstep] at hrun
            cases hrun
        | ok r' =>
            rw [hstep] at hrun
            exact ih (h.step hstep) hrun

lemma finish (h : r.WellNamed) {t : Tree} (hfinish : r.finish = .ok t) : t.WellNamed := by
  have hbranches := (wellNamed_closeBranches r.cursor.pos h.current h.frames).1
  unfold Reader.finish at hfinish
  split at hfinish
  · next tree heq =>
    cases hfinish
    rwa [heq] at hbranches
  · cases hfinish
  · next tree _ _ heq =>
    cases hfinish
    rwa [heq] at hbranches

end Reader.WellNamed

/-- All groups of a pattern have proper names, if they have names. -/
theorem wellNamed_of_readTree {pattern : List Char} {t : Tree} (h : readTree pattern = .ok t) :
    t.WellNamed := by
  obtain ⟨r, hrun, hfinish⟩ := exists_of_bind h
  have hfirst : (Reader.ofPattern pattern).WellNamed :=
    ⟨by simp [Reader.ofPattern], by simp [Reader.ofPattern, Sequence.WellNamed]⟩
  exact (hfirst.run hrun).finish hfinish

end

/-! ## The meaning of a tree -/

namespace Expr

/-- All groups of the expression that have names have proper ones. -/
def WellNamed (e : Expr) : Prop :=
  ∀ index name, (index, some name) ∈ e.captures → IsGroupName name.toList

variable {e : Expr} {es : List Expr}

lemma captures_seq (a b : Expr) : (seq a b).captures = a.captures ++ b.captures := by
  unfold seq
  split <;> simp [captures]

lemma captures_ofList (es : List Expr) : (ofList es).captures = es.flatMap captures := by
  induction es with
  | nil => rfl
  | cons e es ih => rw [List.flatMap_cons, ← ih, ← captures_seq, ofList, ofList, List.foldr_cons]

lemma captures_oneOf (es : List Expr) : (oneOf es).captures = es.flatMap captures := by
  induction es with
  | nil => rfl
  | cons e es ih =>
      cases es with
      | nil => simp [oneOf]
      | cons e' es =>
          have hone : oneOf (e :: e' :: es) = .alternation e (oneOf (e' :: es)) := rfl
          rw [List.flatMap_cons, ← ih, hone, captures]

lemma captures_repeated_subset (least : ℕ) (most : Option ℕ) (greedy : Bool) (e : Expr) :
    (repeated least most greedy e).captures ⊆ e.captures := by
  unfold repeated
  dsimp only
  split_ifs <;> simp [captures]

lemma wellNamed_of_flatMap (h : ∀ e ∈ es, e.WellNamed) (he : e.captures = es.flatMap captures) :
    e.WellNamed := by
  intro index name hmem
  rw [he, List.mem_flatMap] at hmem
  obtain ⟨e', he', hmem⟩ := hmem
  exact h e' he' index name hmem

end Expr

/-- The meaning of a group whose contents have only proper names. -/
lemma GroupKind.WellNamed.wrap {kind : GroupKind} (hkind : kind.WellNamed) {e : Expr}
    (he : e.WellNamed) : (kind.wrap e).WellNamed := by
  cases kind with
  | flagged items => exact he
  | capture index name =>
      intro index' name' hmem
      rcases List.mem_cons.mp hmem with heq | hmem
      · cases heq
        exact hkind index name' rfl
      · exact he index' name' hmem

lemma wellNamed_of_atom {a : Atom} {s : Settings} {e : Expr} (h : a.toExpr s = .ok e) :
    e.WellNamed := by
  have hcaptures : e.captures = [] := by
    have hchars : ∀ x : Except Failure CharSet, Expr.chars <$> x = .ok e → e.captures = [] := by
      intro x hx
      cases x <;> cases hx
      rfl
    cases a with
    | literal lit =>
        rw [Atom.toExpr] at h
        split_ifs at h
        cases h
        rfl
    | dot span =>
        rw [Atom.toExpr] at h
        split_ifs at h
        cases h
        rfl
    | assertion span kind =>
        cases h
        rfl
    | letterClass span kind negated => exact hchars _ h
    | property span query negated => exact hchars _ h
  intro index name hmem
  rw [hcaptures] at hmem
  cases hmem

lemma wellNamed_of_exprsOf {ts : List Tree} {s s' : Settings} {es : List Expr}
    (hts : ∀ t ∈ ts, ∀ s e s', t.toExpr s = .ok (e, s') → e.WellNamed)
    (h : exprsOf s ts = .ok (es, s')) : ∀ e ∈ es, e.WellNamed := by
  induction ts generalizing s es s' with
  | nil =>
      cases h
      simp
  | cons t ts ih =>
      rw [exprsOf] at h
      obtain ⟨⟨e, s₁⟩, he, h⟩ := exists_of_bind h
      obtain ⟨⟨es, s₂⟩, hes, h⟩ := exists_of_bind h
      cases h
      obtain ⟨ht, hts⟩ := List.forall_mem_cons.mp hts
      exact List.forall_mem_cons.mpr ⟨ht s e s₁ he, ih hts hes⟩

/-- **What a tree means** has no other names than the tree. -/
theorem Tree.WellNamed.expr {t : Tree} (ht : t.WellNamed) {s s' : Settings} {e : Expr}
    (h : t.toExpr s = .ok (e, s')) : e.WellNamed := by
  induction ht generalizing s s' e with
  | empty span =>
      cases h
      rintro _ _ ⟨⟩
  | flags span items =>
      cases h
      rintro _ _ ⟨⟩
  | atom a =>
      rw [Tree.toExpr] at h
      obtain ⟨e, he, h⟩ := exists_of_bind h
      cases h
      exact wellNamed_of_atom he
  | brackets span negated inner =>
      rw [Tree.toExpr] at h
      obtain ⟨set, -, h⟩ := exists_of_bind h
      obtain ⟨set, -, h⟩ := exists_of_bind h
      cases h
      rintro _ _ ⟨⟩
  | repetition span least most greedy hinner ih =>
      rw [Tree.toExpr] at h
      obtain ⟨⟨e, s₁⟩, he, h⟩ := exists_of_bind h
      cases h
      exact fun index name hmem => ih he index name (Expr.captures_repeated_subset _ _ _ e hmem)
  | group span hkind hinner ih =>
      rw [Tree.toExpr] at h
      obtain ⟨⟨e, s₁⟩, he, h⟩ := exists_of_bind h
      cases h
      exact hkind.wrap (ih he)
  | alternation span hbranches ih =>
      rw [Tree.toExpr] at h
      obtain ⟨⟨es, s₁⟩, hes, h⟩ := exists_of_bind h
      cases h
      exact Expr.wellNamed_of_flatMap (wellNamed_of_exprsOf (fun t ht s e s' => ih t ht) hes)
        (Expr.captures_oneOf es)
  | concat span hitems ih =>
      rw [Tree.toExpr] at h
      obtain ⟨⟨es, s₁⟩, hes, h⟩ := exists_of_bind h
      cases h
      exact Expr.wellNamed_of_flatMap (wellNamed_of_exprsOf (fun t ht s e s' => ih t ht) hes)
        (Expr.captures_ofList es)

/-- **The names of the groups** of a pattern are proper ones. -/
theorem isGroupName_of_meaning {pattern : List Char} {e : Expr}
    (h : Regex.meaning pattern = .ok e) {name : String} {n : ℕ}
    (hname : (name, n) ∈ (Regex.ofExpr e).groupNames) : IsGroupName name.toList := by
  obtain ⟨t, ht, h⟩ := exists_of_bind h
  obtain ⟨-, -, h⟩ := exists_of_bind h
  obtain ⟨⟨e, s⟩, he, h⟩ := exists_of_bind h
  cases h
  obtain ⟨⟨index, name'⟩, hmem, heq⟩ := List.mem_filterMap.mp hname
  obtain ⟨name'', rfl, hpair⟩ := Option.map_eq_some_iff.mp heq
  cases hpair
  exact (wellNamed_of_readTree ht).expr he _ _ hmem

end Scratchpad.Pattern
