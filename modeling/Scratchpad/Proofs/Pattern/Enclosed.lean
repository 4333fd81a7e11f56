import Scratchpad.Pattern.Reader
import Scratchpad.Proofs.Pattern.Items

/-!
# Patterns inside a group

A pattern that can be read by itself can also be put into a group: it does not close the group, and
what stands behind it does.  Two readers go through the pattern step by step, of which the second
one is inside the group; they open and close the same groups of the pattern itself.

* `Reader.Reads` — what a reader comes to.
* `Frame.Above` — the groups that are open in both readers, above the group around the pattern.
* `Reader.Enclosed`, `Reader.Enclosed.step` — one step of both readers.
* `Reader.Enclosed.run` — a whole run of both.
* **`Reader.Reads.endsEnclosed_of_whole`** — the tree of a pattern between word boundaries.
-/

namespace Scratchpad.Pattern

open Cursor (Followed closing)

/-! ## Readings -/

namespace Reader

variable {r : Reader} {t : Tree} {fuel : ℕ}

/-- The reader comes to a tree in at most `fuel` steps. -/
def Reads (fuel : ℕ) (r : Reader) (t : Tree) : Prop := r.run fuel >>= finish = .ok t

lemma Reads.exists_step (h : r.Reads (fuel + 1) t) (hend : r.cursor.atEnd = false) :
    ∃ r', r.step = .ok r' ∧ r'.Reads fuel t := by
  rw [Reads, run, hend, if_neg Bool.false_ne_true] at h
  cases hstep : r.step with
  | error e =>
      rw [hstep] at h
      cases h
  | ok r' =>
      rw [hstep] at h
      exact ⟨r', rfl, h⟩

lemma run_of_atEnd (hend : r.cursor.atEnd = true) : r.run fuel = .ok r := by
  cases fuel with
  | zero => rfl
  | succ fuel => rw [run, if_pos hend]

lemma skipSpace_nil {c : Cursor} (hc : c.rest = []) (extended : Bool) :
    (c.skipSpace extended).rest = [] := by
  cases extended <;> simp [Cursor.skipSpace, hc, skipBlanks]

/-- Where only blanks are left, no more groups are opened or closed. -/
lemma Reads.exists_frames (h : r.Reads fuel t)
    (hend : (r.cursor.skipSpace r.extended).rest = []) :
    ∃ r' : Reader, r'.frames = r.frames ∧ r'.finish = .ok t := by
  obtain ⟨r', hrun, hfinish⟩ := exists_of_bind h
  refine ⟨r', ?_, hfinish⟩
  cases fuel with
  | zero =>
      cases hrun
      rfl
  | succ fuel =>
      have hstep : r.step = .ok { r with cursor := r.cursor.skipSpace r.extended } := by
        simp only [step, hend]
      have hatEnd : (r.cursor.skipSpace r.extended).atEnd = true := by
        rw [Cursor.atEnd, hend, List.isEmpty_nil]
      rw [run, hstep] at hrun
      split_ifs at hrun
      · cases hrun
        rfl
      · dsimp only at hrun
        rw [run_of_atEnd hatEnd] at hrun
        cases hrun
        rfl

end Reader

/-! ## Two readers -/

/-- Two stacks of the same kind, of which the second one has an open group below.  At most one
alternation waits in each group. -/
inductive Frame.Above (outer : Sequence) (paren : Span) : List Frame → List Frame → Prop
  | bottom : Above outer paren [] [.group outer paren (.flagged []) false]
  | bottomBranches {start start' done done'} :
      Above outer paren [.branches start done]
        [.branches start' done', .group outer paren (.flagged []) false]
  | group {frames frames' seq seq' span span' kind kind' extended}
      (h : Above outer paren frames frames') :
      Above outer paren (.group seq span kind extended :: frames)
        (.group seq' span' kind' extended :: frames')
  | groupBranches {frames frames' seq seq' span span' kind kind' extended start start' done done'}
      (h : Above outer paren frames frames') :
      Above outer paren (.branches start done :: .group seq span kind extended :: frames)
        (.branches start' done' :: .group seq' span' kind' extended :: frames')

/-- No group is open but the one around the pattern. -/
inductive Frame.OnlyOpen (outer : Sequence) (paren : Span) : List Frame → Prop
  | bottom : OnlyOpen outer paren [.group outer paren (.flagged []) false]
  | bottomBranches {start done} :
      OnlyOpen outer paren [.branches start done, .group outer paren (.flagged []) false]

/-- Two readers at the same place, the second one inside a group that the first one does not
have. -/
structure Reader.Enclosed (outer : Sequence) (paren : Span) (n : ℕ) (r s : Reader) : Prop where
  cursor : Followed n r.cursor s.cursor
  extended : r.extended = s.extended
  frames : Frame.Above outer paren r.frames s.frames

namespace Reader

variable {outer : Sequence} {paren : Span} {n : ℕ} {r s : Reader}

lemma Enclosed.nextBranch (h : Enclosed outer paren (n + 1) r s) (hc : r.cursor.rest ≠ []) :
    Enclosed outer paren n r.nextBranch s.nextBranch := by
  refine ⟨h.cursor.bump hc, h.extended, ?_⟩
  have hframes := h.frames
  unfold Reader.nextBranch
  generalize r.frames = frames at hframes ⊢
  generalize s.frames = frames' at hframes ⊢
  cases hframes with
  | bottom => exact .bottomBranches
  | bottomBranches => exact .bottomBranches
  | group h => exact .groupBranches h
  | groupBranches h => exact .groupBranches h

lemma flagState?_congr {flag : Flag} {items items' : List FlagItem}
    (h : flagsOf items = flagsOf items') : flagState? flag items = flagState? flag items' := by
  have hany : ∀ items : List FlagItem,
      items.any (·.flag == some flag) = (flagsOf items).any (· == some flag) := fun items => by
    simp [flagsOf, List.any_map, Function.comp_def]
  induction items generalizing items' with
  | nil => rw [List.map_eq_nil_iff.mp h.symm]
  | cons item items ih =>
      cases items' with
      | nil => cases h
      | cons item' items' =>
          obtain ⟨hitem, hrest⟩ := List.cons.inj h
          have hflags : flagsOf items = flagsOf items' := hrest
          simp only [flagState?, hany, hflags, ih hflags, hitem]

lemma Enclosed.openGroup (h : Enclosed outer paren (n + 1) r s) (hc : r.cursor.rest ≠ []) :
    Alike (Enclosed outer paren n) r.openGroup s.openGroup := by
  obtain ⟨c, extended, _, _, frames, _⟩ := r
  obtain ⟨d, _, _, _, frames', _⟩ := s
  obtain ⟨hcursor, rfl, hframes⟩ := h
  refine (alike_readOpening extended hcursor hc).bind fun a b hab => ?_
  obtain ⟨opening, e⟩ := a
  obtain ⟨opening', f⟩ := b
  obtain ⟨hopening, hef⟩ := hab
  cases hopening with
  | capture => exact .ok ⟨hef, rfl, .group hframes⟩
  | flagged hflags =>
      exact .ok ⟨hef, by simp [extendedBy, flagState?_congr hflags], .group hframes⟩
  | directive hflags => exact .ok ⟨hef, by simp [extendedBy, flagState?_congr hflags], hframes⟩

lemma Enclosed.closeGroup (h : Enclosed outer paren (n + 1) r s) (hc : r.cursor.rest ≠ []) :
    Alike (Enclosed outer paren n) r.closeGroup s.closeGroup := by
  have hbump := h.cursor.bump hc
  have hframes := h.frames
  unfold Reader.closeGroup
  generalize r.frames = frames at hframes ⊢
  generalize s.frames = frames' at hframes ⊢
  cases hframes with
  | bottom => exact .error_left
  | bottomBranches => exact .error_left
  | group h => exact .ok ⟨hbump, rfl, h⟩
  | groupBranches h => exact .ok ⟨hbump, rfl, h⟩

lemma Enclosed.repeatLast (h : Enclosed outer paren (n + 1) r s) (hc : r.cursor.rest ≠ []) :
    Alike (Enclosed outer paren n) r.repeatLast s.repeatLast := by
  obtain ⟨hcursor, hextended, hframes⟩ := h
  unfold Reader.repeatLast
  dsimp only
  split
  · exact .error_left
  · exact .error_left
  · exact .error_left
  · split
    · exact .error_right
    · exact .error_right
    · exact .error_right
    · rw [hextended]
      exact (samePlace_readRepeat s.extended hcursor hc).bind fun _ _ hab => .ok ⟨hab, rfl, hframes⟩

/-- **One step** of two readers, if there is something left to read but blanks. -/
lemma Enclosed.step (h : Enclosed outer paren (n + 1) r s)
    (hc : (r.cursor.skipSpace r.extended).rest ≠ []) :
    Alike (Enclosed outer paren n) r.step s.step := by
  obtain ⟨c, extended, captures, names, frames, current⟩ := r
  obtain ⟨d, _, captures', names', frames', current'⟩ := s
  obtain ⟨hcursor, rfl, hframes⟩ := h
  have hspace := hcursor.skipSpace extended
  dsimp only at hspace hc
  unfold Reader.step
  dsimp only
  generalize c.skipSpace extended = c at hspace hc ⊢
  generalize d.skipSpace extended = d at hspace ⊢
  have h : Enclosed outer paren (n + 1) ⟨c, extended, captures, names, frames, current⟩
    ⟨d, extended, captures', names', frames', current'⟩ := ⟨hspace, rfl, hframes⟩
  obtain ⟨ch, cs, hcs, hds⟩ := hspace.exists_cons hc
  simp only [hcs, hds]
  refine .ite (fun _ => h.openGroup hc) fun _ => ?_
  refine .ite (fun _ => h.closeGroup hc) fun _ => ?_
  refine .ite (fun _ => .ok (h.nextBranch hc)) fun _ => ?_
  refine .ite (fun _ => ?_) fun _ => .ite (fun _ => h.repeatLast hc) fun _ => ?_
  · exact (samePlace_readBrackets extended hspace hc).bind fun _ _ hab => .ok ⟨hab, rfl, hframes⟩
  · exact (samePlace_readAtom extended hspace hc).bind fun _ _ hab => .ok ⟨hab, rfl, hframes⟩

/-! ## Runs -/

/-- The tree is a sequence that ends with a group and a word boundary. -/
def EndsEnclosed (items : List Tree) (t : Tree) : Prop :=
  ∃ span span' span'' inner, t = .concat span (items.reverse ++
    [.group span' (.flagged []) inner, .atom (.assertion span'' .wordBoundary)])

/-- The boundary behind the group is read in one step. -/
lemma run_boundary (p : Position) (extended : Bool) (captures fuel : ℕ)
    (names : List (String × Span)) (q : Sequence) :
    run (fuel + 1) ⟨⟨['\\', 'b'], p⟩, extended, captures, names, [], q⟩
      = .ok ⟨⟨[], (p.after '\\').after 'b'⟩, extended, captures, names, [],
          q.push (.atom (.assertion ⟨p, (p.after '\\').after 'b'⟩ .wordBoundary))⟩ := by
  cases fuel <;> cases extended <;> rfl

/-- **The closing closes the group**, if no other group is open. -/
lemma Reads.endsEnclosed {t : Tree} {k : ℕ} (hs : s.Reads (k + 2) t)
    (hrest : (s.cursor.skipSpace s.extended).rest = closing)
    (hopen : Frame.OnlyOpen outer paren s.frames) : EndsEnclosed outer.items t := by
  have hend : s.cursor.atEnd = false := by
    rw [Cursor.atEnd, List.isEmpty_eq_false_iff]
    intro hnil
    rw [skipSpace_nil hnil] at hrest
    cases hrest
  obtain ⟨s', hstep', hs'⟩ := hs.exists_step hend
  obtain ⟨p, hskip⟩ : ∃ p, s.cursor.skipSpace s.extended = ⟨closing, p⟩ := ⟨_, by rw [← hrest]⟩
  obtain ⟨inner, hstep⟩ : ∃ inner, s.step = .ok ⟨⟨['\\', 'b'], p.after ')'⟩, false, s.captures,
      s.names, [], outer.push (.group ⟨paren.start, p.after ')'⟩ (.flagged []) inner)⟩ := by
    rw [step, hskip]
    generalize s.frames = frames at hopen ⊢
    cases hopen with
    | bottom =>
        refine ⟨s.current.toTree p, ?_⟩
        simp [closing, Reader.closeGroup, closeBranches, Cursor.bump]
    | @bottomBranches start done =>
        refine ⟨.alternation ⟨start, p⟩ (s.current.toTree p :: done).reverse, ?_⟩
        simp [closing, Reader.closeGroup, closeBranches, Cursor.bump]
  rw [hstep, Except.ok.injEq] at hstep'
  subst hstep'
  rw [Reads, run_boundary] at hs'
  cases hs'
  exact ⟨⟨outer.start, ((p.after ')').after '\\').after 'b'⟩, ⟨paren.start, p.after ')'⟩,
    ⟨p.after ')', ((p.after ')').after '\\').after 'b'⟩, inner,
    by simp [Sequence.toTree, Sequence.push]⟩

namespace Enclosed

/-- At the end of the pattern itself no group is open in it. -/
lemma onlyOpen (h : Enclosed outer paren n r s) {fuel : ℕ} {t : Tree} (hr : r.Reads fuel t)
    (hend : (r.cursor.skipSpace r.extended).rest = []) : Frame.OnlyOpen outer paren s.frames := by
  obtain ⟨r', hframes, hfinish⟩ := hr.exists_frames hend
  have habove := h.frames
  rw [finish, hframes] at hfinish
  generalize r.frames = frames at habove hfinish
  generalize s.frames = frames' at habove ⊢
  cases habove with
  | bottom => exact .bottom
  | bottomBranches => exact .bottomBranches
  | group => cases hfinish
  | groupBranches => cases hfinish

/-- At the end of the pattern itself the closing closes the group. -/
lemma endsEnclosed_of_end (h : Enclosed outer paren n r s) {fuel k : ℕ} {t t' : Tree}
    (hr : r.Reads fuel t) (hend : (r.cursor.skipSpace r.extended).rest = [])
    (hs : s.Reads (k + 2) t') : EndsEnclosed outer.items t' := by
  have hopen := h.onlyOpen hr hend
  have hspace := h.cursor.skipSpace r.extended
  rw [h.extended] at hspace hend
  rcases hspace.rest with hrest | ⟨-, hrest⟩
  · rw [hend, List.nil_append] at hrest
    exact hs.endsEnclosed hrest hopen
  · -- a comment has taken the closing, and the group stays open
    obtain ⟨s', hframes, hfinish⟩ := hs.exists_frames hrest
    rw [finish, hframes] at hfinish
    generalize s.frames = frames at hopen hfinish
    cases hopen with
    | bottom => cases hfinish
    | bottomBranches => cases hfinish

/-- **A whole run**: a pattern that can be read by itself does not close the group around it. -/
theorem run (h : Enclosed outer paren n r s) {fuel k : ℕ} (hfuel : n ≤ fuel) {t t' : Tree}
    (hr : r.Reads fuel t) (hs : s.Reads (fuel + (k + 2)) t') : EndsEnclosed outer.items t' := by
  induction fuel generalizing n r s with
  | zero =>
      have hnil : r.cursor.rest = [] :=
        List.eq_nil_of_length_eq_zero (Nat.le_zero.mp (h.cursor.length_le.trans hfuel))
      rw [Nat.zero_add] at hs
      exact h.endsEnclosed_of_end hr (skipSpace_nil hnil _) hs
  | succ fuel ih =>
      by_cases hend : (r.cursor.skipSpace r.extended).rest = []
      · rw [← Nat.add_assoc] at hs
        exact h.endsEnclosed_of_end hr hend hs
      · have hne : r.cursor.rest ≠ [] := fun hnil => hend (skipSpace_nil hnil _)
        have hpos : n ≠ 0 := fun hn =>
          hne (List.eq_nil_of_length_eq_zero (Nat.le_zero.mp (hn ▸ h.cursor.length_le)))
        obtain ⟨n, rfl⟩ := Nat.exists_eq_succ_of_ne_zero hpos
        obtain ⟨hrend, hsend⟩ := h.cursor.atEnd_eq hne
        rw [Nat.succ_add] at hs
        obtain ⟨r', hrstep, hr'⟩ := hr.exists_step hrend
        obtain ⟨s', hsstep, hs'⟩ := hs.exists_step hsend
        exact ih (h.step hend r' s' hrstep hsstep) (Nat.le_of_succ_le_succ hfuel) hr' hs'

end Enclosed

/-- What stands before the pattern of whole words. -/
def opening : List Char := ['\\', 'b', '(', '?', ':']

/-- The group is opened in two steps, behind a word boundary. -/
lemma run_opening (cs : List Char) (p : Position) (captures fuel : ℕ) (names : List (String × Span))
    (q : Sequence) :
    ∃ span paren p', run (fuel + 2) ⟨⟨opening ++ cs, p⟩, false, captures, names, [], q⟩
      = run fuel ⟨⟨cs, p'⟩, false, captures, names,
          [.group (q.push (.atom (.assertion span .wordBoundary))) paren (.flagged []) false],
          ⟨p', []⟩⟩ :=
  ⟨_, _, _, rfl⟩

/-- **A pattern that can be read by itself** is read as the inside of a group between word
boundaries, whatever has been read before. -/
theorem Reads.endsEnclosed_of_whole {cs : List Char} {p : Position} {captures fuel : ℕ}
    {names : List (String × Span)} {q : Sequence} {t t' : Tree}
    (hr : Reads fuel ⟨⟨cs, p⟩, false, captures, names, [], q⟩ t) (hfuel : cs.length ≤ fuel)
    (hs : Reads (fuel + 8) ⟨⟨opening ++ (cs ++ closing), p⟩, false, captures, names, [], q⟩ t') :
    ∃ span, EndsEnclosed (.atom (.assertion span .wordBoundary) :: q.items) t' := by
  obtain ⟨span, paren, p', hopen⟩ := run_opening (cs ++ closing) p captures (fuel + 6) names q
  rw [Reads, hopen] at hs
  have hstart : Enclosed (q.push (.atom (.assertion span .wordBoundary))) paren cs.length
      ⟨⟨cs, p⟩, false, captures, names, [], q⟩
      ⟨⟨cs ++ closing, p'⟩, false, captures, names,
        [.group (q.push (.atom (.assertion span .wordBoundary))) paren (.flagged []) false],
        ⟨p', []⟩⟩ :=
    ⟨⟨.inl rfl, le_rfl⟩, rfl, .bottom⟩
  exact ⟨span, hstart.run hfuel hr hs⟩

end Reader

end Scratchpad.Pattern
