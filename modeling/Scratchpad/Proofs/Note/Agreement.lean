import Scratchpad.Proofs.Note.Bounds
import Scratchpad.Proofs.Note.Cut

/-!
# Two views of a note

The note at a cursor is found by a search that goes out from the cursor, the notes of a text by
reading it from the left.  Where delimiters overlap, the reader takes the first of them and does not
see the second one; a cursor behind the first one lies inside of the second one.

* `IsNoteAt` — the last note of a text that begins at or before an offset.
* `Place.Covers.isNoteAt_iff` — it is the one note that the cursor belongs to.
* `Overlap`, `exists_overlap` — the first two delimiters of a text that overlap.
* `exists_leftIndex` — inside of the first of them, every search finds the same beginning of a note.
* `Overlap.noteAt_ne` — behind one of the two delimiters, the note at the cursor is another one.
* **`isNoteAt_noteAt_iff_apart`** — the two views agree for just the texts without an overlap, and
  in all texts for just the delimiters that cannot overlap themselves.
-/

namespace Scratchpad.Note.Delimiter

open Text

/-- The note is the last one of the text that begins at or before the offset. -/
def IsNoteAt (d : Delimiter) (text : List Char) (offset : ℕ) (n : List Char) : Prop :=
  ∃ i, ∃ hi : i < (d.notes text).length,
    d.noteStart text i ≤ offset ∧
    (∀ j, i < j → j < (d.notes text).length → offset < d.noteStart text j) ∧
    n = (d.notes text)[i]

variable {d : Delimiter} {text : List Char} {cursor : ℕ}

/-- There is one such note, the one that the cursor belongs to. -/
lemma Place.Covers.isNoteAt_iff {p : d.Place text} (hp : p.Covers cursor) {n : List Char} :
    d.IsNoteAt text (floorOffset cursor text) n ↔ n = p.note := by
  have hlen := p.length_notes
  constructor
  · rintro ⟨i, hi, hle, hlast, rfl⟩
    obtain rfl : i = p.before.length := by
      rcases lt_trichotomy i p.before.length with h | h | h
      · have := hlast _ h (by omega)
        have := hp.begins_noteStart
        omega
      · exact h
      · have := hp.lt_noteStart h hi
        omega
    simp [p.notes_eq]
  · rintro rfl
    refine ⟨p.before.length, by omega, hp.begins_noteStart,
      fun j hj hlt => hp.lt_noteStart hj hlt, ?_⟩
    simp [p.notes_eq]

/-- If the delimiters lie apart, the note at a cursor is one of the notes. -/
theorem isNoteAt_noteAt (ha : Apart d.chars text) (cursor : ℕ) :
    d.IsNoteAt text (floorOffset cursor text) (d.noteAt text cursor) := by
  obtain ⟨p, hp⟩ := d.exists_covers text cursor
  exact hp.isNoteAt_iff.mpr (hp.noteAt_eq_of_apart ha)

/-! ## The ends of the note, once more -/

/-- The size of the note. -/
lemma leftIndex_add_byteSize (d : Delimiter) (text : List Char) (cursor : ℕ) :
    d.leftIndex text cursor + byteSize (d.noteAt text cursor) = d.rightIndex text cursor := by
  obtain ⟨e, -⟩ := d.exists_enclosed text cursor
  have hleft : d.leftIndex text cursor = byteSize e.before := e.left_eq
  have hright : d.rightIndex text cursor = byteSize (e.before ++ e.note) := e.right_eq
  rw [hleft, hright, e.noteAt_eq, byteSize_append]

/-- Where a delimiter begins, the note ends. -/
lemma rightIndex_of_occurrence {a v : List Char} (htext : text = a ++ d.chars ++ v)
    (hsnap : d.snap text cursor = byteSize a) : d.rightIndex text cursor = byteSize a := by
  have hfirst : beforeFirst d.chars (d.chars ++ v) = [] :=
    beforeFirst_eq_iff.mpr ⟨_, rfl, .inr (List.prefix_append _ _), fun _ _ _ => Nat.zero_le _⟩
  rw [List.append_assoc] at htext
  rw [rightIndex_of_snap htext hsnap, hfirst, List.append_nil]

/-- **Inside of a delimiter** that no other one reaches into, every search finds the same beginning
of a note. -/
lemma exists_leftIndex {u : List Char} (hu : Apart d.chars (u ++ d.chars)) :
    ∃ k, k ≤ byteSize u ∧ ∀ text cursor x b, text = u ++ x ++ b → x <+: d.chars →
      x.length < d.chars.length → d.snap text cursor = byteSize (u ++ x) →
      d.leftIndex text cursor = k := by
  have hinside {x p q : List Char} (hx : x <+: d.chars) (hlt : x.length < d.chars.length)
      (hpq : u ++ x = p ++ d.chars ++ q) : p ++ d.chars <+: u := by
    have hlen := congrArg List.length hpq
    simp only [List.length_append] at hlen
    have hpre : p ++ d.chars <+: u ++ d.chars :=
      (List.prefix_append _ q).trans (hpq ▸ (List.prefix_append_right_inj u).mpr hx)
    have hle := hu p u hpre (List.prefix_refl _) (by omega)
    exact List.prefix_of_prefix_length_le hpre (List.prefix_append u _) hle
  cases hlast : afterLast? d.chars u with
  | none =>
      have habsent := (afterLast?_eq_none_iff d.chars_ne_nil).mp hlast
      refine ⟨0, Nat.zero_le _, fun text cursor x b htext hx hlt hsnap => ?_⟩
      refine leftIndex_of_snap_of_absent htext hsnap ?_
      rintro ⟨p, q, hpq⟩
      exact habsent (List.IsInfix.trans ⟨p, [], by simp⟩ (hinside hx hlt hpq.symm).isInfix)
  | some rest =>
      obtain ⟨q, rfl, hmax⟩ := (afterLast?_eq_some_iff d.chars_ne_nil).mp hlast
      refine ⟨byteSize (q ++ d.chars), byteSize_mono (List.prefix_append _ _),
        fun text cursor x b htext hx hlt hsnap => ?_⟩
      have hcut : q ++ d.chars ++ rest ++ x = q ++ d.chars ++ (rest ++ x) := by
        rw [List.append_assoc]
      refine leftIndex_of_snap htext hsnap hcut fun u' v' huv => ?_
      obtain ⟨t, ht⟩ := hinside hx hlt huv
      exact hmax u' t ht.symm

/-! ## Delimiters that overlap -/

/-- The first two delimiters of a text that overlap: one stands behind `before`, and the next one
begins inside of it, behind `before ++ step`. -/
structure Overlap (d : Delimiter) (text : List Char) where
  before : List Char
  step : List Char
  first : before ++ d.chars <+: text
  second : before ++ step ++ d.chars <+: text
  step_ne_nil : step ≠ []
  step_lt : step.length < d.chars.length
  apart : Apart d.chars (before ++ d.chars)
  next : ∀ x, x ++ d.chars <+: text → before.length < x.length →
    (before ++ step).length ≤ x.length

/-- If delimiters overlap, there are two that do so first: they end with the shortest beginning of
the text in which delimiters overlap. -/
lemma exists_overlap (h : ¬ Apart d.chars text) : Nonempty (d.Overlap text) := by
  induction text using List.reverseRecOn with
  | nil =>
      refine absurd (fun u u' _ hu' hlt => ?_) h
      have hlen := hu'.length_le
      rw [List.length_append, List.length_nil] at hlen
      omega
  | append_singleton t c ih =>
      by_cases ht : Apart d.chars t
      · unfold Apart at h
        push Not at h
        obtain ⟨u, u', hu, hu', hlt, hgt⟩ := h
        have hearlier (x : List Char) (hx : x ++ d.chars <+: t ++ [c])
            (hxlt : x.length < u'.length) : x ++ d.chars <+: t := by
          have hlen := hu'.length_le
          refine List.prefix_of_prefix_length_le hx (List.prefix_append t [c]) ?_
          simp only [List.length_append, List.length_singleton] at hlen ⊢
          omega
        obtain ⟨w, rfl⟩ : u <+: u' :=
          List.prefix_of_prefix_length_le ((List.prefix_append u d.chars).trans hu)
            ((List.prefix_append u' d.chars).trans hu') hlt.le
        have hfirst := hearlier u hu hlt
        simp only [List.length_append] at hlt hgt
        refine ⟨⟨u, w, hu, hu', List.length_pos_iff.mp (by omega), by omega, ht.of_prefix hfirst,
          fun x hx hxlt => ?_⟩⟩
        by_contra hshort
        have hle := ht u x hfirst (hearlier x hx (not_le.mp hshort)) hxlt
        simp only [List.length_append] at hshort hle
        omega
      · obtain ⟨o⟩ := ih ht
        have hmore := List.prefix_append t [c]
        refine ⟨⟨o.before, o.step, o.first.trans hmore, o.second.trans hmore, o.step_ne_nil,
          o.step_lt, o.apart, fun x hx hxlt => ?_⟩⟩
        by_contra hshort
        have hlen := o.second.length_le
        refine hshort (o.next x (List.prefix_of_prefix_length_le hx hmore ?_) hxlt)
        simp only [List.length_append] at hshort hlen ⊢
        omega

namespace Overlap

variable (o : d.Overlap text)

lemma step_prefix : o.step <+: d.chars := by
  have hlen := o.step_lt
  refine (List.prefix_append_right_inj o.before).mp (List.prefix_of_prefix_length_le
    ((List.prefix_append _ d.chars).trans o.second) o.first ?_)
  simp only [List.length_append]
  omega

lemma byteSize_step_lt : byteSize o.step < byteSize d.chars := by
  obtain ⟨t, ht⟩ := o.step_prefix
  have ht' : t ≠ [] := by
    rintro rfl
    have hlen := congrArg List.length ht
    have := o.step_lt
    rw [List.append_nil] at hlen
    omega
  have := byteSize_pos ht'
  rw [← ht, byteSize_append]
  omega

/-- The reader takes the first of the two delimiters, and the note behind it reaches up to the next
delimiter that begins there. -/
lemma exists_place : ∃ p : d.Place text, d.opening p.before = o.before ++ d.chars ∧
    ∀ z, o.before ++ d.chars ++ z ++ d.chars <+: text → p.note <+: z := by
  obtain ⟨v, hv⟩ := o.first
  obtain ⟨n, ns, hns⟩ : ∃ n ns, splitOn d.chars v = n :: ns :=
    List.exists_cons_of_ne_nil (splitOn_ne_nil v)
  have hnotes : d.notes (o.before ++ d.chars ++ v) = d.notes o.before ++ splitOn d.chars v :=
    splitOn_between d.chars_ne_nil o.apart v
  rw [hv, hns] at hnotes
  refine ⟨⟨d.notes o.before, n, ns, hnotes⟩, ?_, fun z hz => ?_⟩
  · rw [d.opening_eq (A := d.notes o.before) (splitOn_ne_nil _), notes,
      intercalate_splitOn d.chars_ne_nil]
  · obtain ⟨b, hb⟩ := hz
    have hvz : v = z ++ d.chars ++ b := by
      have hboth := hv.trans hb.symm
      simpa using hboth
    have hhead : some n = some (beforeFirst d.chars v) := by
      rw [← head_splitOn, hns, List.head?_cons]
    obtain ⟨rest, hrest, -, hfirst⟩ : ∃ rest, v = beforeFirst d.chars v ++ rest ∧ _ :=
      beforeFirst_spec v
    rw [← Option.some.inj hhead] at hrest hfirst
    exact List.prefix_of_prefix_length_le ⟨rest, hrest.symm⟩
      ⟨d.chars ++ b, by rw [hvz, List.append_assoc]⟩ (hfirst z b hvz)

/-- The place behind the first of the two delimiters. -/
def firstEnd : ℕ := byteSize (o.before ++ d.chars)

/-- The place behind the second one. -/
def secondEnd : ℕ := byteSize (o.before ++ o.step ++ d.chars)

lemma firstEnd_eq : o.firstEnd = byteSize o.before + byteSize d.chars := byteSize_append _ _

lemma secondEnd_eq : o.secondEnd = byteSize o.step + o.firstEnd := by
  rw [secondEnd, firstEnd_eq, byteSize_append, byteSize_append]
  omega

lemma floorOffset_firstEnd : floorOffset o.firstEnd text = o.firstEnd :=
  floorOffset_of_prefix o.first

lemma floorOffset_secondEnd : floorOffset o.secondEnd text = o.secondEnd :=
  floorOffset_of_prefix o.second

/-- A delimiter that begins behind the beginning of the first one does not begin before the
second one. -/
lemma byteSize_step_le_of_lt {x : List Char} (hx : x ++ d.chars <+: text)
    (hlt : byteSize o.before < byteSize x) : byteSize o.before + byteSize o.step ≤ byteSize x := by
  have hxtext := (List.prefix_append x d.chars).trans hx
  have hlen : o.before.length < x.length := by
    by_contra hle
    have := byteSize_mono (List.prefix_of_prefix_length_le hxtext
      ((List.prefix_append _ _).trans o.first) (not_lt.mp hle))
    omega
  rw [← byteSize_append]
  exact byteSize_mono (List.prefix_of_prefix_length_le ((List.prefix_append _ _).trans o.second)
    hxtext (o.next x hx hlen))

/-- A cursor behind the first delimiter goes to the second one. -/
lemma snap_firstEnd : d.snap text o.firstEnd = byteSize (o.before ++ o.step) := by
  obtain ⟨v', hv'⟩ := o.second
  have hstep := byteSize_pos o.step_ne_nil
  have hstep_lt := o.byteSize_step_lt
  have hend := o.firstEnd_eq
  have hinside : byteSize (o.before ++ o.step) < o.firstEnd ∧
      o.firstEnd < byteSize (o.before ++ o.step ++ d.chars) := by
    simp only [byteSize_append]
    omega
  rcases d.snap_spec text o.firstEnd with ⟨u, b, hub, hsnap, -, hgt, hmin⟩ | ⟨-, hnone⟩
  · rw [floorOffset_firstEnd] at hgt hmin
    rw [byteSize_append] at hgt
    have hle := o.byteSize_step_le_of_lt ⟨b, hub.symm⟩ (by omega)
    have hge := hmin _ v' hv'.symm hinside.2
    rw [byteSize_append] at hge ⊢
    omega
  · rw [floorOffset_firstEnd] at hnone
    have := hnone _ v' hv'.symm hinside.1
    omega

/-- The note there ends where the second delimiter begins. -/
lemma rightIndex_firstEnd :
    d.rightIndex text o.firstEnd = byteSize o.before + byteSize o.step := by
  obtain ⟨v', hv'⟩ := o.second
  rw [rightIndex_of_occurrence hv'.symm o.snap_firstEnd, byteSize_append]

/-- Wherever the search begins inside of the first delimiter, the note begins at the same place. -/
lemma leftIndex_eq {x b : List Char} (htext : text = o.before ++ x ++ b) (hx : x <+: d.chars)
    (hlt : x.length < d.chars.length) (hsnap : d.snap text cursor = byteSize (o.before ++ x)) :
    d.leftIndex text cursor = d.leftIndex text o.firstEnd ∧
      d.leftIndex text o.firstEnd ≤ byteSize o.before := by
  obtain ⟨k, hk, hleft⟩ := exists_leftIndex o.apart
  obtain ⟨v', hv'⟩ := o.second
  rw [List.append_assoc] at hv'
  rw [hleft text cursor x b htext hx hlt hsnap,
    hleft text _ o.step _ hv'.symm o.step_prefix o.step_lt o.snap_firstEnd]
  exact ⟨rfl, hk⟩

/-- The note there is at least as long as the part of the first delimiter before the second one. -/
lemma byteSize_step_le : byteSize o.step ≤ byteSize (d.noteAt text o.firstEnd) := by
  obtain ⟨v', hv'⟩ := o.second
  rw [List.append_assoc] at hv'
  have hleft := (o.leftIndex_eq hv'.symm o.step_prefix o.step_lt o.snap_firstEnd).2
  have hsize := d.leftIndex_add_byteSize text o.firstEnd
  rw [o.rightIndex_firstEnd] at hsize
  omega

/-- Cursors from there on belong to the note behind the first delimiter. -/
lemma covers {p : d.Place text} (hopen : d.opening p.before = o.before ++ d.chars)
    (hle : o.firstEnd ≤ floorOffset cursor text)
    (hlt : floorOffset cursor text < o.firstEnd + byteSize p.note + byteSize d.chars) :
    p.Covers cursor := by
  refine ⟨?_, fun _ => ?_⟩
  · rwa [hopen]
  · rwa [hopen, byteSize_append, byteSize_append]

/-- If a third delimiter begins inside of the first one, behind the second, the note at a cursor in
it is longer than the note before the second one. -/
lemma byteSize_noteAt_lt_of_inside {a b : List Char} (hab : text = a ++ d.chars ++ b)
    (hsnap : d.snap text cursor = byteSize a) (hlt : byteSize (o.before ++ o.step) < byteSize a)
    (hin : byteSize a < o.firstEnd) :
    byteSize (d.noteAt text o.firstEnd) < byteSize (d.noteAt text cursor) := by
  obtain ⟨v, hv⟩ := o.first
  have hsame : a ++ (d.chars ++ b) = text := by rw [hab, List.append_assoc]
  have hpre : a <+: o.before ++ d.chars := prefix_of_byteSize_le (hsame.trans hv.symm) hin.le
  rw [byteSize_append] at hlt
  obtain ⟨x, rfl⟩ : o.before <+: a := by
    rw [List.append_assoc] at hv
    exact prefix_of_byteSize_le (hv.trans hsame.symm) (by omega)
  have hx : x <+: d.chars := (List.prefix_append_right_inj o.before).mp hpre
  have hlen : x.length < d.chars.length := by
    refine lt_of_le_of_ne hx.length_le fun heq => ?_
    rw [hx.eq_of_length heq] at hin
    exact lt_irrefl _ hin
  have hleft := (o.leftIndex_eq hsame.symm hx hlen hsnap).1
  have hsize := d.leftIndex_add_byteSize text o.firstEnd
  have hsize' := d.leftIndex_add_byteSize text cursor
  rw [o.rightIndex_firstEnd] at hsize
  rw [rightIndex_of_occurrence hab hsnap] at hsize'
  omega

/-- If no delimiter reaches across the end of the second one, the note that begins there is shorter
than the note behind the first one. -/
lemma byteSize_noteAt_lt_of_snap {p : d.Place text}
    (hopen : d.opening p.before = o.before ++ d.chars) (hstep : byteSize o.step ≤ byteSize p.note)
    (hsnap : d.snap text o.secondEnd = o.secondEnd) :
    byteSize (d.noteAt text o.secondEnd) < byteSize p.note := by
  obtain ⟨v', hv'⟩ := o.second
  have hpos := byteSize_pos o.step_ne_nil
  have hend := o.secondEnd_eq
  have hleft : d.leftIndex text o.secondEnd = o.secondEnd := by
    have hcut : o.before ++ o.step ++ d.chars = o.before ++ o.step ++ d.chars ++ [] :=
      (List.append_nil _).symm
    refine leftIndex_of_snap hv'.symm hsnap hcut fun u v huv => ?_
    have hlen := congrArg List.length huv
    simp only [List.length_append] at hlen ⊢
    omega
  have hclosing : d.closing p.behind = [] ∨ d.chars <+: d.closing p.behind := by
    by_cases hB : p.behind = []
    · exact .inl (by rw [hB, closing_nil])
    · exact .inr (by rw [d.closing_eq hB]; exact List.prefix_append _ _)
  have hstop : byteSize (d.opening p.before ++ p.note) = o.firstEnd + byteSize p.note := by
    rw [hopen, byteSize_append, firstEnd]
  have hright : d.rightIndex text o.secondEnd ≤ byteSize (d.opening p.before ++ p.note) :=
    rightIndex_le p.text_eq hclosing (by omega)
  have hsize := d.leftIndex_add_byteSize text o.secondEnd
  omega

/-- **Behind one of the two delimiters the note at the cursor is another one** than the note that
begins behind the first of them. -/
lemma noteAt_ne {p : d.Place text} (hopen : d.opening p.before = o.before ++ d.chars)
    (hnext : ∀ z, o.before ++ d.chars ++ z ++ d.chars <+: text → p.note <+: z)
    (hfirst : d.noteAt text o.firstEnd = p.note) : d.noteAt text o.secondEnd ≠ p.note := by
  intro hsecond
  have hend := o.secondEnd_eq
  have hend' := o.firstEnd_eq
  have hstep := o.byteSize_step_le
  rw [hfirst] at hstep
  rcases d.snap_spec text o.secondEnd with ⟨a, b, hab, hsnap, hlt, hgt, -⟩ | ⟨hsnap, -⟩
  · rw [floorOffset_secondEnd] at hlt hgt
    by_cases hin : byteSize a < o.firstEnd
    · have hbehind : byteSize (o.before ++ o.step) < byteSize a := by
        rw [byteSize_append] at hgt ⊢
        omega
      have hless := o.byteSize_noteAt_lt_of_inside hab hsnap hbehind hin
      rw [hfirst, hsecond] at hless
      exact lt_irrefl _ hless
    · -- The next delimiter begins behind the first one, and there the note behind that one ends.
      obtain ⟨v, hv⟩ := o.first
      obtain ⟨z, rfl⟩ : o.before ++ d.chars <+: a := by
        have hsame : a ++ (d.chars ++ b) = text := by rw [hab, List.append_assoc]
        exact prefix_of_byteSize_le (hv.trans hsame.symm) (not_lt.mp hin)
      have hle := byteSize_mono (hnext z ⟨b, hab.symm⟩)
      rw [byteSize_append, ← firstEnd] at hlt
      omega
  · rw [floorOffset_secondEnd] at hsnap
    have hless := o.byteSize_noteAt_lt_of_snap hopen hstep hsnap
    rw [hsecond] at hless
    exact lt_irrefl _ hless

end Overlap

/-- If the note at every cursor is one of the notes, then the delimiters lie apart. -/
lemma apart_of_forall_isNoteAt
    (h : ∀ cursor, d.IsNoteAt text (floorOffset cursor text) (d.noteAt text cursor)) :
    Apart d.chars text := by
  by_contra ha
  obtain ⟨o⟩ := exists_overlap ha
  obtain ⟨p, hopen, hnext⟩ := o.exists_place
  -- the cursors behind the two delimiters both belong to the note behind the first one
  have hpos := byteSize_pos d.chars_ne_nil
  have hend := o.secondEnd_eq
  have hcovers : p.Covers o.firstEnd :=
    o.covers hopen (by rw [o.floorOffset_firstEnd]) (by rw [o.floorOffset_firstEnd]; omega)
  have hfirst : d.noteAt text o.firstEnd = p.note := hcovers.isNoteAt_iff.mp (h o.firstEnd)
  have hstep := o.byteSize_step_le
  rw [hfirst] at hstep
  have hcovers' : p.Covers o.secondEnd :=
    o.covers hopen (by rw [o.floorOffset_secondEnd]; omega) (by rw [o.floorOffset_secondEnd]; omega)
  exact o.noteAt_ne hopen hnext hfirst (hcovers'.isNoteAt_iff.mp (h o.secondEnd))

/-- **The note at a cursor and the notes of a text agree just if the delimiters of the text lie
apart**: then the note at every cursor is the last one that begins at or before it, and otherwise
there is a cursor for which it is not.  They agree in every text just for a delimiter that cannot
overlap itself, as the default one cannot. -/
theorem isNoteAt_noteAt_iff_apart (d : Delimiter) :
    (∀ text, (∀ cursor, d.IsNoteAt text (floorOffset cursor text) (d.noteAt text cursor)) ↔
      Apart d.chars text) ∧
    ((∀ text cursor, d.IsNoteAt text (floorOffset cursor text) (d.noteAt text cursor)) ↔
      Unbordered d.chars) ∧
    Unbordered Delimiter.default.chars := by
  have happart : ∀ text,
      (∀ cursor, d.IsNoteAt text (floorOffset cursor text) (d.noteAt text cursor)) ↔
        Apart d.chars text := fun text => ⟨apart_of_forall_isNoteAt, isNoteAt_noteAt⟩
  refine ⟨happart, ?_, by decide⟩
  rw [← forall_apart_iff_unbordered]
  exact forall_congr' happart

/-- Notes between blank lines: behind three line breaks the cursor lies inside of the second of two
delimiters, and the note at the cursor is none of the notes. -/
theorem noteAt_blank_lines :
    let d : Delimiter := ⟨"\n\n".toList, by decide⟩
    let text := "x\n\n\ny".toList
    d.notes text = ["x".toList, "\ny".toList] ∧ d.noteAt text 3 = "x\n".toList ∧
      ¬ d.IsNoteAt text (floorOffset 3 text) (d.noteAt text 3) := by
  intro d text
  have hnotes : d.notes text = ["x".toList, "\ny".toList] := by decide +kernel
  have hnote : d.noteAt text 3 = "x\n".toList := by decide +kernel
  refine ⟨hnotes, hnote, ?_⟩
  rintro ⟨i, hi, -, -, heq⟩
  have hmem : d.noteAt text 3 ∈ d.notes text := heq ▸ List.getElem_mem hi
  rw [hnotes, hnote] at hmem
  exact absurd hmem (by decide)

end Scratchpad.Note.Delimiter
