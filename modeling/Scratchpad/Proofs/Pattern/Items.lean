import Scratchpad.Pattern.Bracket
import Scratchpad.Pattern.Group
import Scratchpad.Pattern.Repeat
import Scratchpad.Proofs.Pattern.Followed

/-!
# Sets, groups and repetitions with something behind

Sets in brackets, what opens a group and repetition operators are read to the same place, whether or
not the closing of a pattern of whole words stands behind the pattern.

* `BracketReader.Followed` — two readers of sets at the same place, inside the same brackets.
* `BracketReader.Followed.step`, `samePlace_readBrackets` — one step of them, and whole sets.
* `Opening.Alike`, `alike_readOpening` — what opens a group.
* `samePlace_readRepeat` — repetition operators.
-/

namespace Scratchpad.Pattern

open Cursor (Followed closing)

variable {n : ℕ} {c d : Cursor}

/-! ## The character behind the current one -/

section

open Cursor.peekNext? (pastSpace)

variable {seenHash : Bool} {cs : List Char} {ch : Char}

lemma pastSpace_append :
    pastSpace seenHash (cs ++ closing) = some ((pastSpace seenHash cs).getD [] ++ closing) := by
  induction cs generalizing seenHash with
  | nil => cases seenHash <;> rfl
  | cons ch cs ih =>
      simp only [List.cons_append, pastSpace]
      split_ifs
      · exact ih
      · exact ih
      · rfl

lemma ne_nil_of_pastSpace {rest : List Char} (h : pastSpace seenHash cs = some rest) :
    rest ≠ [] := by
  induction cs generalizing seenHash with
  | nil => cases h
  | cons ch cs ih =>
      rw [pastSpace] at h
      split_ifs at h
      · exact ih h
      · exact ih h
      · cases h
        exact List.cons_ne_nil _ _

/-- Only blanks and the `#` of a comment are passed. -/
lemma head?_of_pastSpace_eq_none (h : pastSpace seenHash cs = none) (hhead : cs.head? = some ch) :
    Unicode.isBlank ch = true ∨ ch = '#' := by
  cases cs with
  | nil => cases hhead
  | cons x cs =>
      cases hhead
      rw [pastSpace] at h
      split_ifs at h with hblank hhash
      · exact .inl hblank
      · rw [Bool.and_eq_true, decide_eq_true_eq] at hhash
        exact .inr hhash.1

/-- A sign of the syntax is met behind the current character in both patterns or in neither. -/
lemma Cursor.Followed.peekNext?_eq_some_iff (h : Followed n c d) (hc : c.rest ≠ [])
    (hch : Unicode.isBlank ch = false ∧ ch ≠ '#' ∧ ch ≠ ')') (extended : Bool) :
    d.peekNext? extended = some ch ↔ c.peekNext? extended = some ch := by
  obtain ⟨hblank, hhash, hparen⟩ := hch
  obtain ⟨first, cs, hcs, hds⟩ := h.exists_cons hc
  cases extended with
  | false =>
      cases cs with
      | nil => simpa [Cursor.peekNext?, hcs, hds, closing] using hparen.symm
      | cons x cs => simp [Cursor.peekNext?, hcs, hds]
  | true =>
      simp only [Cursor.peekNext?, hcs, hds, List.tail_cons, if_true, pastSpace_append,
        Option.getD_some]
      cases hpast : pastSpace false cs with
      | none =>
          have hhead : cs.head? ≠ some ch := fun hhead => by
            rcases head?_of_pastSpace_eq_none hpast hhead with hch | hch
            · rw [hblank] at hch
              cases hch
            · exact hhash hch
          simpa [closing, hhead] using hparen.symm
      | some rest =>
          obtain ⟨x, rest, rfl⟩ := List.exists_cons_of_ne_nil (ne_nil_of_pastSpace hpast)
          rfl

end

/-! ## Classes inside brackets -/

/-- The rest of a class such as `[:alpha:]`, behind what opens it. -/
def classBehind? (start : Position) (negated : Bool) (c : Cursor) :
    Option (SetSyntax × Cursor) := do
  if c.atEnd then none
  let (name, d) := c.takeWhile false (· != ':')
  let d ← d.bumpOver? ":]"
  let kind ← asciiClassNames.lookup (.ofList name)
  return (.ascii ⟨start, d.pos⟩ kind negated, d)

lemma readAsciiClass?_eq (c : Cursor) :
    readAsciiClass? c = (do
      let d ← c.bumpOver? "[:"
      if d.atEnd then none
      let negated := d.rest.head? == some '^'
      classBehind? c.pos negated (if negated then d.bump else d)) :=
  rfl

lemma bumpOver?_of_nil (hc : c.rest = []) {text : String} (htext : text.toList ≠ []) :
    c.bumpOver? text = none := by
  obtain ⟨ch, w, hw⟩ := List.exists_cons_of_ne_nil htext
  rw [Cursor.bumpOver?, hw, hc]
  rfl

lemma rel_classBehind? (h : Followed n c d) (start start' : Position) (negated : Bool) :
    Option.Rel (fun r s => Followed n r.2 s.2) (classBehind? start negated c)
      (classBehind? start' negated d) := by
  have hp : ∀ ch ∈ closing, (ch != ':') = true := by simp [closing]
  have hrun := h.takeWhile (.inr hp) false
  have hover := hrun.followed.bumpOver? ":]" (by decide)
  unfold classBehind?
  by_cases hc : c.rest = []
  · -- what ends a class does not come in the closing
    rw [Cursor.takeWhile, Cursor.takeUpTo_of_nil hc, bumpOver?_of_nil hc (by decide)] at hover
    cases hd : (d.takeWhile false (· != ':')).2.bumpOver? ":]" with
    | none => simp [Cursor.atEnd, hc, hd]
    | some e =>
        rw [hd] at hover
        cases hover
  · simp only [h.atEnd_eq hc]
    refine rel_bind hover fun e f he hef => ?_
    have hne : (c.takeWhile false (· != ':')).2.rest ≠ [] := fun hnil => by
      rw [bumpOver?_of_nil hnil (by decide)] at he
      cases he
    rw [hrun.chars (.inr hne)]
    cases asciiClassNames.lookup (.ofList (c.takeWhile false (· != ':')).1) with
    | none => exact .none
    | some kind => exact .some hef

lemma rel_readAsciiClass? (h : Followed n c d) :
    Option.Rel (fun r s => Followed n r.2 s.2) (readAsciiClass? c) (readAsciiClass? d) := by
  rw [readAsciiClass?_eq, readAsciiClass?_eq]
  refine rel_bind (h.bumpOver? "[:" (by decide)) fun e f _ hef => ?_
  by_cases he : e.rest = []
  · have hcaret : (f.rest.head? == some '^') = false := by
      rw [hef.head?_beq (by decide), he]
      rfl
    have hrel := rel_classBehind? hef c.pos d.pos false
    have hnone : classBehind? c.pos false e = none := by simp [classBehind?, Cursor.atEnd, he]
    rw [hnone] at hrel
    cases hf : classBehind? d.pos false f with
    | none => simp [Cursor.atEnd, he, hcaret, hf]
    | some r =>
        rw [hf] at hrel
        cases hrel
  · simp only [hef.atEnd_eq he, hef.head?_beq (show '^' ≠ ')' by decide)]
    refine rel_classBehind? ?_ _ _ _
    split_ifs
    · exact hef.succ.bump he
    · exact hef

/-! ## Sets in brackets -/

/-- Entries of the stack of the same kind. -/
inductive SetFrame.Alike : SetFrame → SetFrame → Prop
  | bracket {outer outer' span span' negated negated'} :
      Alike (.bracket outer span negated) (.bracket outer' span' negated')
  | operand {op op' left left'} : Alike (.operand op left) (.operand op' left')

/-- Two readers of sets at the same place, inside the same brackets. -/
structure BracketReader.Followed (n : ℕ) (r s : BracketReader) : Prop where
  cursor : Cursor.Followed n r.cursor s.cursor
  frames : List.Forall₂ SetFrame.Alike r.frames s.frames

/-- Two readers of sets have made a step: neither set is complete, or both are. -/
abbrev BracketReader.Stepped (n : ℕ) :
    BracketReader ⊕ (Tree × Cursor) → BracketReader ⊕ (Tree × Cursor) → Prop :=
  Sum.LiftRel (BracketReader.Followed n) fun a b => Cursor.Followed n a.2 b.2

section

variable (extended : Bool) {r s : BracketReader}

/-- Behind hyphens something is left. -/
lemma alike_readHyphens {fuel fuel' : ℕ} {l l' : ItemList} {start start' : Position}
    (h : Followed n c d) (hc : c.rest ≠ []) (hl : l.items.isEmpty = l'.items.isEmpty)
    (hfuel : c.rest.length ≤ fuel) (hfuel' : d.rest.length ≤ fuel') :
    Alike (fun r s => r.1.items.isEmpty = s.1.items.isEmpty ∧ Followed n r.2 s.2 ∧ r.2.rest ≠ [])
      (readHyphens extended start fuel l c) (readHyphens extended start' fuel' l' d) := by
  induction fuel generalizing c d fuel' l l' with
  | zero => exact absurd (List.eq_nil_of_length_eq_zero (Nat.le_zero.mp hfuel)) hc
  | succ fuel ih =>
      have hnext := h.succ.next hc extended
      obtain ⟨k, rfl, hfuel, hfuel'⟩ := h.next_fuel hc extended hfuel hfuel'
      simp only [readHyphens, h.head?_eq_some_iff (show '-' ≠ ')' by decide)]
      refine .ite (fun _ => ?_) fun _ => .ok ⟨hl, h, hc⟩
      by_cases hend : (c.next extended).rest = []
      · simp only [Cursor.atEnd, hend]
        exact .error_left
      · simp only [hnext.atEnd_eq hend]
        exact ih hnext hend rfl hfuel hfuel'

/-- An opening bracket takes at least one character. -/
lemma alike_openBracket (h : r.Followed (n + 1) s) (hr : r.cursor.rest ≠ []) :
    Alike (BracketReader.Followed n) (openBracket extended r) (openBracket extended s) := by
  have hnext := h.cursor.next hr extended
  dsimp only [openBracket]
  refine hnext.unlessAtEnd fun hne => ?_
  rw [hnext.head?_beq (show '^' ≠ ')' by decide)]
  generalize ((r.cursor.next extended).rest.head? == some '^') = negated
  have hcaret : Followed n
      (if negated then (r.cursor.next extended).next extended else r.cursor.next extended)
      (if negated then (s.cursor.next extended).next extended else s.cursor.next extended) := by
    cases negated with
    | true => exact hnext.succ.next hne extended
    | false => exact hnext
  have hl : ∀ p q, (ItemList.startAt p).items.isEmpty = (ItemList.startAt q).items.isEmpty :=
    fun _ _ => rfl
  refine hcaret.unlessAtEnd fun hne => ?_
  refine (alike_readHyphens extended hcaret hne (hl _ _) le_rfl le_rfl).bind fun a b hab => ?_
  obtain ⟨hitems, hcursor, hne⟩ := hab
  rw [hitems, hcursor.head?_beq (show ']' ≠ ')' by decide)]
  refine .ite (fun _ => ?_) fun _ => .ok ⟨hcursor, .cons .bracket h.frames⟩
  have hbehind := hcursor.succ.next hne extended
  exact hbehind.unlessAtEnd fun _ => .ok ⟨hbehind, .cons .bracket h.frames⟩

/-- Operators wait in both readers or in neither. -/
lemma forall₂_applyOperator {frames frames' : List SetFrame}
    (h : List.Forall₂ SetFrame.Alike frames frames') (right right' : SetSyntax) :
    List.Forall₂ SetFrame.Alike (applyOperator frames right).2
      (applyOperator frames' right').2 := by
  cases h with
  | nil => exact .nil
  | cons hframe h =>
      cases hframe with
      | bracket => exact .cons .bracket h
      | operand => exact h

lemma followed_pushOperator (h : r.Followed n s) (op : SetOp) (hc : r.cursor.rest ≠ [])
    (hcb : r.cursor.bump.rest ≠ []) : (pushOperator op r).Followed n (pushOperator op s) :=
  ⟨(h.cursor.succ.bump hc).succ.bump hcb, .cons .operand (forall₂_applyOperator h.frames _ _)⟩

lemma samePlace_readSetAtom (h : Followed (n + 1) c d) (hc : c.rest ≠ []) :
    SamePlace n (readSetAtom extended c) (readSetAtom extended d) := by
  refine samePlace_of_single extended (fun c cs hcs => ?_) (fun c ch cs hcs hch => ?_) h hc
  · simp only [readSetAtom, hcs]
  · unfold readSetAtom
    split
    · next heq => exact absurd (List.cons.inj (hcs.symm.trans heq)).1 hch
    · exact ⟨_, rfl⟩
    · next heq => cases hcs.symm.trans heq

lemma alike_readSetRange (h : r.Followed n s) (hc : r.cursor.rest ≠ []) :
    Alike (BracketReader.Followed n) (readSetRange extended r) (readSetRange extended s) := by
  dsimp only [readSetRange]
  refine (samePlace_readSetAtom extended h.cursor.succ hc).bind fun a b hab => ?_
  have hspace := hab.skipSpace extended
  refine hspace.unlessAtEnd fun hne => ?_
  simp only [ne_eq, hspace.head?_eq_some_iff (show '-' ≠ ')' by decide),
    hspace.peekNext?_eq_some_iff hne (show _ ∧ ']' ≠ '#' ∧ ']' ≠ ')' by decide),
    hspace.peekNext?_eq_some_iff hne (show _ ∧ '-' ≠ '#' ∧ '-' ≠ ')' by decide)]
  refine .ite (fun _ => .bind_any fun _ _ => .ok ⟨hspace, h.frames⟩) fun _ => ?_
  have hnext := hspace.succ.next hne extended
  refine hnext.unlessAtEnd fun hne => ?_
  refine (samePlace_readSetAtom extended hnext.succ hne).bind fun _ _ hlast => ?_
  exact .bind_any fun _ _ => .bind_any fun _ _ => .refuse (.ok ⟨hlast, h.frames⟩)

/-- The innermost bracket is closed in both readers, and it is the outermost one in both or in
neither. -/
lemma stepped_closeBracket (h : r.Followed n s) (hc : r.cursor.rest ≠ []) :
    BracketReader.Stepped n (closeBracket r) (closeBracket s) := by
  have hbump := h.cursor.succ.bump hc
  have hframes := forall₂_applyOperator h.frames r.current.toSet s.current.toSet
  unfold closeBracket
  generalize applyOperator r.frames r.current.toSet = a at hframes
  generalize applyOperator s.frames s.current.toSet = b at hframes
  obtain ⟨inner, frames⟩ := a
  obtain ⟨inner', frames'⟩ := b
  cases hframes with
  | nil => exact .inr hbump
  | cons hframe hframes =>
      cases hframe with
      | operand => exact .inr hbump
      | bracket =>
          cases hframes with
          | nil => exact .inr hbump
          | cons hframe hframes => exact .inl ⟨hbump, .cons hframe hframes⟩

/-- Two signs behind each other are both of the pattern itself. -/
lemma exists_eq_cons_cons {ch x y : Char} {cs ds : List Char}
    (h : ch :: (cs ++ closing) = x :: y :: ds) (hy : y ≠ ')') : ∃ es, ch :: cs = x :: y :: es := by
  cases cs with
  | nil =>
      cases h
      exact absurd rfl hy
  | cons z cs =>
      cases h
      exact ⟨cs, rfl⟩

namespace BracketReader.Followed

/-- **One step** of two readers of sets. -/
lemma step (h : r.Followed n s) : Alike (Stepped n) (r.step extended) (s.step extended) := by
  have hspace := h.cursor.skipSpace extended
  have h : BracketReader.Followed n { r with cursor := r.cursor.skipSpace extended }
    { s with cursor := s.cursor.skipSpace extended } := ⟨hspace, h.frames⟩
  unfold BracketReader.step
  by_cases hc : (r.cursor.skipSpace extended).rest = []
  · simp only [hc]
    exact .error_left
  obtain ⟨ch, cs, hcs, hds⟩ := hspace.exists_cons hc
  simp only [hcs, hds]
  split
  · next heq => cases heq
  · next heq =>
    cases heq
    have hclass := rel_readAsciiClass? hspace
    generalize readAsciiClass? (r.cursor.skipSpace extended) = x at hclass ⊢
    generalize readAsciiClass? (s.cursor.skipSpace extended) = y at hclass ⊢
    cases hclass with
    | some hab => exact .ok (.inl ⟨hab, h.frames⟩)
    | none =>
        have hopen := alike_openBracket extended ⟨h.cursor.succ, h.frames⟩ hc
        exact hopen.map fun _ _ hab => .inl hab
  · next heq =>
    cases heq
    exact .ok (stepped_closeBracket h hc)
  · next heq =>
    cases heq
    exact .ok (.inl (followed_pushOperator h .inter hc (by simp [Cursor.bump, hcs])))
  · next heq =>
    cases heq
    exact .ok (.inl (followed_pushOperator h .diff hc (by simp [Cursor.bump, hcs])))
  · next heq =>
    cases heq
    exact .ok (.inl (followed_pushOperator h .symmDiff hc (by simp [Cursor.bump, hcs])))
  · next hopen hclose hand hminus htilde =>
    have hrange := (alike_readSetRange extended h hc).map (S := Stepped n) (f := .inl) (g := .inl)
      fun _ _ hab => .inl hab
    -- the parenthesis of the closing makes no operator with a sign of the pattern
    split
    · next heq => cases heq
    · next heq =>
      cases heq
      exact absurd rfl (hopen cs)
    · next heq =>
      cases heq
      exact absurd rfl (hclose cs)
    · next heq =>
      obtain ⟨tail, htail⟩ := exists_eq_cons_cons heq (by decide)
      exact (hand tail htail).elim
    · next heq =>
      obtain ⟨tail, htail⟩ := exists_eq_cons_cons heq (by decide)
      exact (hminus tail htail).elim
    · next heq =>
      obtain ⟨tail, htail⟩ := exists_eq_cons_cons heq (by decide)
      exact (htilde tail htail).elim
    · exact hrange

lemma run {fuel fuel' : ℕ} (h : r.Followed n s) :
    SamePlace n (r.run extended fuel) (s.run extended fuel') := by
  induction fuel generalizing r s fuel' with
  | zero => exact .error_left
  | succ fuel ih =>
      cases fuel' with
      | zero => exact .error_right
      | succ fuel' =>
          rw [BracketReader.run, BracketReader.run]
          refine (h.step extended).elim (fun _ _ => .error_left) (fun _ _ => .error_right)
            fun a b hab => ?_
          cases hab with
          | inl hab => exact ih hab
          | inr hab => exact .ok hab

end BracketReader.Followed

/-- **A set in brackets** takes at least one character. -/
theorem samePlace_readBrackets (h : Followed (n + 1) c d) (hc : c.rest ≠ []) :
    SamePlace n (readBrackets extended c) (readBrackets extended d) := by
  unfold readBrackets
  have hopen := alike_openBracket extended (r := ⟨c, [], .startAt c.pos⟩)
    (s := ⟨d, [], .startAt d.pos⟩) ⟨h, .nil⟩ hc
  exact hopen.elim (fun _ _ => .error_left) (fun _ _ => .error_right)
    fun _ _ hab => hab.run extended

end

/-! ## Groups -/

/-- The flags of the items, without their spans. -/
def flagsOf (items : List FlagItem) : List (Option Flag) := items.map (·.flag)

/-- Two openings of the same kind, with the same flags. -/
inductive Opening.Alike : Opening → Opening → Prop
  | capture {name name'} : Alike (.capture name) (.capture name')
  | flagged {items items'} (h : flagsOf items = flagsOf items') :
      Alike (.flagged items) (.flagged items')
  | directive {items items'} (h : flagsOf items = flagsOf items') :
      Alike (.directive items) (.directive items')

section

variable {cs ds : List Char} {p q : Position}

lemma alike_readFlags {items items' : List FlagItem} (h : Followed n ⟨cs, p⟩ ⟨ds, q⟩)
    (hitems : flagsOf items = flagsOf items') :
    Alike (fun r s => flagsOf r.1 = flagsOf s.1 ∧ Followed n r.2 s.2 ∧ r.2.rest ≠ [])
      (readFlags items cs p) (readFlags items' ds q) := by
  induction cs generalizing ds p q items items' with
  | nil => exact .error_left
  | cons ch cs ih =>
      obtain ⟨_, _, ⟨⟩, ⟨⟩⟩ := h.exists_cons (List.cons_ne_nil ch cs)
      have hbump : Followed n ⟨cs, p.after ch⟩ ⟨cs ++ closing, q.after ch⟩ :=
        h.succ.bump (List.cons_ne_nil ch cs)
      simp only [readFlags]
      refine .ite (fun _ => ?_) fun _ => .ite (fun _ => ?_) fun _ => ?_
      · split
        · exact .error_left
        · split
          · exact .error_right
          · exact .ok ⟨by simpa [flagsOf] using hitems, h, List.cons_ne_nil ch cs⟩
      · split
        · exact .error_left
        · split
          · exact .error_right
          · exact ih hbump (congrArg (none :: ·) hitems)
      · cases flagLetters.lookup ch with
        | none => exact .error_left
        | some flag =>
            dsimp only
            split
            · exact .error_left
            · split
              · exact .error_right
              · exact ih hbump (congrArg (some flag :: ·) hitems)

lemma alike_readNameChars {first : Bool} (h : Followed n ⟨cs, p⟩ ⟨ds, q⟩) :
    Alike (fun r s => Followed n r.2 s.2 ∧ r.2.rest ≠ [])
      (readNameChars first cs p) (readNameChars first ds q) := by
  induction cs generalizing ds p q first with
  | nil => exact .error_left
  | cons ch cs ih =>
      obtain ⟨_, _, ⟨⟩, ⟨⟩⟩ := h.exists_cons (List.cons_ne_nil ch cs)
      have hbump : Followed n ⟨cs, p.after ch⟩ ⟨cs ++ closing, q.after ch⟩ :=
        h.succ.bump (List.cons_ne_nil ch cs)
      simp only [readNameChars]
      refine .ite (fun _ => .ok ⟨h, List.cons_ne_nil ch cs⟩) fun _ => ?_
      refine .ite (fun _ => ?_) fun _ => .error_left
      exact (ih hbump).elim (fun _ _ => .error_left) (fun _ _ => .error_right)
        fun _ _ hab => .ok hab

end

section

variable {names names' : List (String × Span)}

lemma alike_readName (h : Followed n c d) :
    Alike (fun r s => Followed n r.2.2 s.2.2) (readName names c) (readName names' d) := by
  unfold readName
  refine (alike_readNameChars h).elim (fun _ _ => .error_left) (fun _ _ => .error_right)
    fun a b hab => ?_
  intro r s hr hs
  dsimp only at hr hs
  split_ifs at hr hs
  split at hr <;> cases hr
  split at hs <;> cases hs
  exact hab.1.succ.bump hab.2

/-- **What opens a group** takes at least one character. -/
theorem alike_readOpening (extended : Bool) (h : Followed (n + 1) c d) (hc : c.rest ≠ []) :
    Alike (fun r s => r.1.Alike s.1 ∧ Followed n r.2 s.2) (readOpening extended names c)
      (readOpening extended names' d) := by
  have hnext := h.next hc extended
  dsimp only [readOpening]
  generalize c.next extended = e at hnext ⊢
  generalize d.next extended = f at hnext ⊢
  have hlook := hnext.findSome? lookAroundSigns (by decide)
  have hname := hnext.findSome? ["?P<", "?<"] (by decide)
  have hmark := hnext.bumpOver? "?" (by decide)
  generalize lookAroundSigns.findSome? e.bumpOver? = look at hlook ⊢
  generalize lookAroundSigns.findSome? f.bumpOver? = look' at hlook ⊢
  generalize ["?P<", "?<"].findSome? e.bumpOver? = name at hname ⊢
  generalize ["?P<", "?<"].findSome? f.bumpOver? = name' at hname ⊢
  generalize e.bumpOver? "?" = mark at hmark ⊢
  generalize f.bumpOver? "?" = mark' at hmark ⊢
  cases hlook with
  | some => exact .error_left
  | none =>
      cases hname with
      | some hname => exact (alike_readName hname).bind fun _ _ hab => .ok ⟨.capture, hab⟩
      | none =>
          cases hmark with
          | none => exact .ok ⟨.capture, hnext⟩
          | some hmark =>
              refine hmark.unlessAtEnd fun _ => ?_
              refine (alike_readFlags hmark rfl).bind fun a b hab => ?_
              obtain ⟨hflags, hcursor, hne⟩ := hab
              obtain ⟨ch, cs, hcs, hds⟩ := hcursor.exists_cons hne
              have hbump := hcursor.succ.bump hne
              simp only [hcs, hds, List.head?_cons]
              refine .ite (fun _ => .refuse ?_) fun _ => .ok ⟨.flagged hflags, hbump⟩
              exact .ok ⟨.directive hflags, hbump⟩

end

/-! ## Repetitions -/

section

variable (extended : Bool)

lemma followed_readDecimal (h : Followed n c d) :
    Followed n (readDecimal extended c).2 (readDecimal extended d).2 := by
  have hbefore := (h.takeWhile (p := Unicode.isBlank) (.inl (by decide)) false).followed
  have hdigits := (hbefore.takeWhile (p := Char.isDigit) (.inl (by decide)) extended).followed
  have hbehind := (hdigits.takeWhile (p := Unicode.isBlank) (.inl (by decide)) extended).followed
  have hsnd : ∀ c, (readDecimal extended c).2
      = (((c.takeWhile false Unicode.isBlank).2.takeWhile extended Char.isDigit).2.takeWhile
          extended Unicode.isBlank).2 := fun c => by
    dsimp only [readDecimal]
    split_ifs <;> rfl
  rw [hsnd, hsnd]
  exact hbehind

/-- A sign that makes an operator lazy. -/
lemma followed_lazily (h : Followed n c d) :
    Followed n (if c.rest.head? == some '?' then c.bump else c)
      (if d.rest.head? == some '?' then d.bump else d) := by
  rw [h.head?_beq (by decide)]
  split_ifs with hhead
  · exact h.succ.bump fun hnil => by simp [hnil] at hhead
  · exact h

lemma samePlace_readCounts (h : Followed (n + 1) c d) (hc : c.rest ≠ []) :
    SamePlace n (readCounts extended c) (readCounts extended d) := by
  have hnext := h.next hc extended
  have hleast := followed_readDecimal extended hnext
  dsimp only [readCounts]
  refine hnext.unlessAtEnd fun _ => hleast.unlessAtEnd fun hne => ?_
  rw [hleast.head?_beq (show ',' ≠ ')' by decide)]
  -- the counts may end at three places, and what closes them is the same at all of them
  refine .ite (fun _ => ?_) fun _ => .bind_any fun _ _ => ?_
  · have hcomma := hleast.succ.next hne extended
    have hmost := followed_readDecimal extended hcomma
    refine hcomma.unlessAtEnd fun _ => .bind_any fun _ _ => ?_
    rw [hcomma.head?_beq (show '}' ≠ ')' by decide)]
    refine .ite (fun _ => ?_) fun _ => .bind_any fun _ _ => ?_
    · refine .bind (R := fun r s => Followed n r.2.2 s.2.2) (.ok hcomma) fun r s hrs => ?_
      exact Followed.unlessHead fun hne => .refuse (.ok (followed_lazily (hrs.succ.next hne _)))
    · refine .bind (R := fun r s => Followed n r.2.2 s.2.2) (.ok hmost) fun r s hrs => ?_
      exact Followed.unlessHead fun hne => .refuse (.ok (followed_lazily (hrs.succ.next hne _)))
  · refine .bind (R := fun r s => Followed n r.2.2 s.2.2) (.ok hleast) fun r s hrs => ?_
    exact Followed.unlessHead fun hne => .refuse (.ok (followed_lazily (hrs.succ.next hne _)))

/-- **A repetition operator** takes at least one character. -/
theorem samePlace_readRepeat (h : Followed (n + 1) c d) (hc : c.rest ≠ []) :
    SamePlace n (readRepeat extended c) (readRepeat extended d) := by
  obtain ⟨ch, cs, hcs, hds⟩ := h.exists_cons hc
  have hlazily := followed_lazily (h.bump hc)
  dsimp only [readRepeat]
  rw [hcs, hds, List.head?_cons, List.head?_cons]
  split
  · exact .ok hlazily
  · exact .ok hlazily
  · exact .ok hlazily
  · exact samePlace_readCounts extended h hc

end

end Scratchpad.Pattern
