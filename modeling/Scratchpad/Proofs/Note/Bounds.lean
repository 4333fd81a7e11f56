import Scratchpad.Note.Delete
import Scratchpad.Proofs.Note.Span

/-!
# The span at a cursor marks a whole note

For every delimiter, even one whose occurrences can overlap, the span at a cursor cuts the text into
three parts: the middle one holds no delimiter, and on either side of it there is a delimiter or
nothing.  Whatever is done with the note at the cursor is done with these three parts.

* `deleteRange_eq_closeGap`, `deleteRange_byteSize` — what is done with a range that is deleted.
* `Enclosed` — a span marks a whole note of a text.
* `Enclosed.noteAt_eq`, `Enclosed.deleteAt_eq`, `Enclosed.replaceNoteAt_eq` — the operations on the
  note, in terms of the three parts.
* `exists_snap_cut` — where the search begins, the text can be cut.
* `le_leftIndex`, `rightIndex_le` — the note stays between any two delimiters around that place.
* `exists_enclosed` — the span at a cursor marks a whole note.
* **`span_bounds_note`** — this note, where the cursor lies, and what is done with the note.
-/

namespace Scratchpad.Note

open Text

/-- To delete a range is to close the gap between the two parts beside it. -/
lemma deleteRange_eq_closeGap {text before gap after : List Char} {left right : ℕ}
    (htext : text = before ++ gap ++ after) (hleft : floorOffset left text = byteSize before)
    (hright : max (floorOffset right text) (floorOffset left text) = byteSize (before ++ gap))
    (part : List Char) : deleteRange part text left right = closeGap part before after := by
  have hbefore := splitAtByte_of_eq_append (htext.trans (List.append_assoc _ _ _))
  have hafter := splitAtByte_of_eq_append htext
  rw [deleteRange, hright, hleft, hbefore, hafter]

/-- So it is between two character boundaries. -/
lemma deleteRange_byteSize {text before gap after : List Char}
    (htext : text = before ++ gap ++ after) (part : List Char) :
    deleteRange part text (byteSize before) (byteSize (before ++ gap))
      = closeGap part before after := by
  have hleft := floorOffset_of_prefix ⟨gap ++ after, (htext.trans (List.append_assoc _ _ _)).symm⟩
  have hright := floorOffset_of_prefix ⟨after, htext.symm⟩
  refine deleteRange_eq_closeGap htext hleft ?_ part
  rw [hleft, hright]
  exact max_eq_left (byteSize_mono (List.prefix_append before gap))

namespace Delimiter

/-- **A span marks a whole note**: it cuts the text in three, there is no delimiter in the middle,
and on either side of the middle part there is a delimiter or nothing. -/
structure Enclosed (d : Delimiter) (text : List Char) (s : Span) where
  before : List Char
  note : List Char
  behind : List Char
  text_eq : text = before ++ note ++ behind
  left_eq : s.left = byteSize before
  right_eq : s.right = byteSize (before ++ note)
  free : ¬ d.chars <:+: note
  opened : before = [] ∨ d.chars <:+ before
  closed : behind = [] ∨ d.chars <+: behind

variable {d : Delimiter} {text : List Char} {cursor : ℕ}

namespace Enclosed

variable {s : Span} (e : d.Enclosed text s)

include e

lemma left_le_right : s.left ≤ s.right := by
  rw [e.left_eq, e.right_eq]
  exact byteSize_mono (List.prefix_append _ _)

lemma right_le : s.right ≤ byteSize text := by
  rw [e.right_eq]
  exact byteSize_mono ⟨e.behind, e.text_eq.symm⟩

/-- The left end of the span is a place at which the text can be cut, -/
lemma splitAtByte_left : splitAtByte s.left text = (e.before, e.note ++ e.behind) := by
  rw [e.left_eq]
  exact splitAtByte_of_eq_append (e.text_eq.trans (List.append_assoc _ _ _))

/-- and so is its right end. -/
lemma splitAtByte_right : splitAtByte s.right text = (e.before ++ e.note, e.behind) := by
  rw [e.right_eq]
  exact splitAtByte_of_eq_append e.text_eq

/-- Between them lies the note. -/
lemma sliceBytes_eq : sliceBytes s.left s.right text = e.note := by
  rw [e.left_eq, e.right_eq]
  conv_lhs => arg 3; rw [e.text_eq]
  exact sliceBytes_byteSize _ _ _

/-- To delete the range of the span closes the gap between the two sides. -/
lemma deleteRange_eq :
    deleteRange d.chars text s.left s.right = closeGap d.chars e.before e.behind := by
  rw [e.left_eq, e.right_eq]
  exact deleteRange_byteSize e.text_eq d.chars

/-- A text without a delimiter is all note. -/
lemma note_eq_text (h : ¬ d.chars <:+: text) : e.note = text := by
  have hbefore : e.before = [] := by
    rcases e.opened with hnil | hsuf
    · exact hnil
    · exact absurd (hsuf.isInfix.trans ⟨[], e.note ++ e.behind, by simp [e.text_eq]⟩) h
  have hbehind : e.behind = [] := by
    rcases e.closed with hnil | hpre
    · exact hnil
    · exact absurd (hpre.isInfix.trans ⟨e.before ++ e.note, [], by simp [e.text_eq]⟩) h
  refine Eq.trans ?_ e.text_eq.symm
  simp [hbefore, hbehind]

end Enclosed

section

variable (e : d.Enclosed text (d.span text cursor))

include e

/-- The note at the cursor is the marked one. -/
theorem Enclosed.noteAt_eq : d.noteAt text cursor = e.note := e.sliceBytes_eq

theorem Enclosed.deleteAt_eq : d.deleteAt text cursor = closeGap d.chars e.before e.behind :=
  e.deleteRange_eq

/-- Nothing but the note is replaced. -/
theorem Enclosed.replaceNoteAt_eq (new : List Char) :
    d.replaceNoteAt text cursor new = e.before ++ new ++ e.behind := by
  simp only [replaceNoteAt, e.splitAtByte_left, e.splitAtByte_right]

end

/-! ## Where the search begins -/

/-- No occurrence of the delimiter reaches across the place between `a` and `b`. -/
def Clear (d : Delimiter) (a b : List Char) : Prop :=
  ∀ u v, a ++ b = u ++ d.chars ++ v → u.length < a.length → (u ++ d.chars).length ≤ a.length

/-- **Where the search begins, the text can be cut.**  Either a delimiter begins there, in which the
cursor lies, or no delimiter reaches across the place and the cursor is there. -/
lemma exists_snap_cut (d : Delimiter) (text : List Char) (cursor : ℕ) :
    ∃ a b, text = a ++ b ∧ d.snap text cursor = byteSize a ∧
      ((∃ v, b = d.chars ++ v ∧ byteSize a < floorOffset cursor text ∧
          floorOffset cursor text < byteSize (a ++ d.chars)) ∨
        (floorOffset cursor text = byteSize a ∧ d.Clear a b)) := by
  rcases d.snap_spec text cursor with ⟨u, v, htext, hsnap, hlt, hgt, -⟩ | ⟨hsnap, hnone⟩
  · refine ⟨u, d.chars ++ v, ?_, hsnap, .inl ⟨v, rfl, hlt, hgt⟩⟩
    rw [← List.append_assoc]
    exact htext
  · obtain ⟨a, b, hab, hfloor⟩ := exists_floorOffset cursor text
    refine ⟨a, b, hab, hsnap.trans hfloor, .inr ⟨hfloor, ?_⟩⟩
    intro u v huv hlt
    have hocc : text = u ++ (d.chars ++ v) := by
      rw [hab, huv, List.append_assoc]
    have hu : u <+: a :=
      List.prefix_of_prefix_length_le ⟨d.chars ++ v, hocc.symm⟩ ⟨b, hab.symm⟩ hlt.le
    have hsize : byteSize u < byteSize a := by
      obtain ⟨t, rfl⟩ := hu
      have ht : t ≠ [] := by
        rintro rfl
        simp at hlt
      have := byteSize_pos ht
      rw [byteSize_append]
      omega
    have hle : byteSize (u ++ d.chars) ≤ byteSize a := by
      have := hnone u v (hab.trans huv) (by rwa [hfloor])
      rwa [hfloor] at this
    have hpre : u ++ d.chars <+: a := prefix_of_byteSize_le (huv.symm) hle
    exact hpre.length_le

/-! ## The two ends -/

/-- The left end: behind the last delimiter before the place, or at the beginning of the text. -/
lemma exists_leftIndex_eq {a b : List Char} (htext : text = a ++ b)
    (hsnap : d.snap text cursor = byteSize a) :
    ∃ l x, a = l ++ x ∧ d.leftIndex text cursor = byteSize l ∧ (l = [] ∨ d.chars <:+ l) ∧
      ¬ d.chars <:+: x := by
  by_cases hocc : d.chars <:+: a
  · cases hlast : afterLast? d.chars a with
    | none => exact absurd hocc ((afterLast?_eq_none_iff d.chars_ne_nil).mp hlast)
    | some x =>
        obtain ⟨u, hu, hmax⟩ := (afterLast?_eq_some_iff d.chars_ne_nil).mp hlast
        refine ⟨u ++ d.chars, x, hu, leftIndex_of_snap htext hsnap hu hmax,
          .inr (List.suffix_append _ _), ?_⟩
        rintro ⟨p, q, rfl⟩
        -- an occurrence behind the last one
        have hle := hmax (u ++ d.chars ++ p) q (by rw [hu]; simp)
        have hpos := List.length_pos_iff.mpr d.chars_ne_nil
        simp only [List.length_append] at hle
        omega
  · exact ⟨[], a, rfl, leftIndex_of_snap_of_absent htext hsnap hocc, .inl rfl, hocc⟩

/-- The note does not begin before the end of a delimiter that lies before the place, -/
lemma le_leftIndex {x y : List Char} (htext : text = x ++ y) (hx : x = [] ∨ d.chars <:+ x)
    (hle : byteSize x ≤ d.snap text cursor) : byteSize x ≤ d.leftIndex text cursor := by
  rcases hx with rfl | ⟨u, rfl⟩
  · exact Nat.zero_le _
  obtain ⟨a, b, hab, hsnap, -⟩ := d.exists_snap_cut text cursor
  rw [hsnap] at hle
  obtain ⟨z, rfl⟩ : u ++ d.chars <+: a := prefix_of_byteSize_le (htext.symm.trans hab) hle
  cases hlast : afterLast? d.chars (u ++ d.chars ++ z) with
  | none => exact absurd ⟨u, z, rfl⟩ ((afterLast?_eq_none_iff d.chars_ne_nil).mp hlast)
  | some rest =>
      obtain ⟨v, hv, hmax⟩ := (afterLast?_eq_some_iff d.chars_ne_nil).mp hlast
      have hlen := hmax u z rfl
      rw [leftIndex_of_snap hab hsnap hv hmax]
      refine byteSize_mono (List.prefix_of_prefix_length_le ⟨z, rfl⟩ ⟨rest, hv.symm⟩ ?_)
      simp only [List.length_append]
      omega

/-- nor does it reach beyond a delimiter behind it, or beyond the text. -/
lemma rightIndex_le {x y : List Char} (htext : text = x ++ y) (hy : y = [] ∨ d.chars <+: y)
    (hle : d.snap text cursor ≤ byteSize x) : d.rightIndex text cursor ≤ byteSize x := by
  obtain ⟨a, b, hab, hsnap, -⟩ := d.exists_snap_cut text cursor
  rw [hsnap] at hle
  obtain ⟨z, rfl⟩ : a <+: x := prefix_of_byteSize_le (hab.symm.trans htext) hle
  obtain rfl : b = z ++ y := by
    rw [hab, List.append_assoc] at htext
    exact List.append_cancel_left htext
  obtain ⟨rest, hrest, -, hfirst⟩ : ∃ rest, z ++ y = beforeFirst d.chars (z ++ y) ++ rest ∧ _ :=
    beforeFirst_spec (z ++ y)
  have hlen : (beforeFirst d.chars (z ++ y)).length ≤ z.length := by
    rcases hy with rfl | ⟨v, rfl⟩
    · have hlen := congrArg List.length hrest
      simp only [List.append_nil, List.length_append] at hlen ⊢
      omega
    · exact hfirst z v (by rw [List.append_assoc])
  rw [rightIndex_of_snap hab hsnap]
  exact byteSize_mono ((List.prefix_append_right_inj a).mpr
    (List.prefix_of_prefix_length_le ⟨rest, hrest.symm⟩ ⟨y, rfl⟩ hlen))

/-- An occurrence in `x ++ y` lies in `x`, in `y`, or across the place between them. -/
lemma infix_append_cases {w x y : List Char} (h : w <:+: x ++ y) :
    w <:+: x ∨ w <:+: y ∨
      ∃ p q, x ++ y = p ++ w ++ q ∧ p.length < x.length ∧ x.length < (p ++ w).length := by
  obtain ⟨p, q, hpq⟩ := h
  by_cases hx : (p ++ w).length ≤ x.length
  · have hpre : p ++ w <+: x := List.prefix_of_prefix_length_le ⟨q, hpq⟩ ⟨y, rfl⟩ hx
    exact .inl (List.IsInfix.trans ⟨p, [], by simp⟩ hpre.isInfix)
  · by_cases hy : x.length ≤ p.length
    · obtain ⟨t, rfl⟩ : x <+: p :=
        List.prefix_of_prefix_length_le ⟨y, rfl⟩ ⟨w ++ q, by rw [← hpq, List.append_assoc]⟩ hy
      refine .inr (.inl ⟨t, q, ?_⟩)
      have hrest : x ++ (t ++ w ++ q) = x ++ y := by
        rw [← hpq]
        simp
      exact List.append_cancel_left hrest
    · exact .inr (.inr ⟨p, q, hpq.symm, by omega, by omega⟩)

lemma Clear.not_infix_append {l x y rest : List Char} (h : d.Clear (l ++ x) (y ++ rest))
    (hx : ¬ d.chars <:+: x) (hy : ¬ d.chars <:+: y) : ¬ d.chars <:+: x ++ y := by
  intro hocc
  rcases infix_append_cases hocc with hinx | hiny | ⟨p, q, hpq, hlt, hgt⟩
  · exact hx hinx
  · exact hy hiny
  · have hacross : l ++ x ++ (y ++ rest) = l ++ p ++ d.chars ++ (q ++ rest) := by
      rw [← List.append_assoc, List.append_assoc l x y, hpq]
      simp
    have hle := h (l ++ p) (q ++ rest) hacross (by simp only [List.length_append]; omega)
    simp only [List.length_append] at hle hgt
    omega

/-- **The span at a cursor marks a whole note.** -/
theorem exists_enclosed (d : Delimiter) (text : List Char) (cursor : ℕ) :
    ∃ e : d.Enclosed text (d.span text cursor),
      byteSize e.before ≤ floorOffset cursor text ∧
      (floorOffset cursor text ≤ byteSize (e.before ++ e.note) ∨
        ∃ v, e.behind = d.chars ++ v ∧ byteSize (e.before ++ e.note) < floorOffset cursor text ∧
          floorOffset cursor text < byteSize (e.before ++ e.note ++ d.chars)) := by
  obtain ⟨a, b, htext, hsnap, hplace⟩ := d.exists_snap_cut text cursor
  obtain ⟨l, x, rfl, hleft, hopened, hx⟩ := exists_leftIndex_eq htext hsnap
  obtain ⟨rest, hb, hclosed, hfirst⟩ : ∃ rest, b = beforeFirst d.chars b ++ rest ∧ _ :=
    beforeFirst_spec b
  have hright : d.rightIndex text cursor = byteSize (l ++ x ++ beforeFirst d.chars b) :=
    rightIndex_of_snap htext hsnap
  have hy : ¬ d.chars <:+: beforeFirst d.chars b := not_infix_beforeFirst d.chars_ne_nil b
  generalize beforeFirst d.chars b = y at hb hfirst hright hy
  have hle : byteSize l ≤ byteSize (l ++ x) := byteSize_mono (List.prefix_append _ _)
  rcases hplace with ⟨v, hv, hlt, hgt⟩ | ⟨hfloor, hclear⟩
  · -- a delimiter begins at the place, so that nothing of the note lies behind it
    obtain rfl : y = [] := List.length_eq_zero_iff.mp (Nat.le_zero.mp (hfirst [] v hv))
    rw [List.append_nil] at hright
    rw [List.nil_append] at hb
    refine ⟨⟨l, x, rest, ?_, hleft, hright, hx, hopened, hclosed⟩, hle.trans hlt.le, .inr ⟨v, ?_⟩⟩
    · rw [htext, hb]
    · exact ⟨hb ▸ hv, hlt, hgt⟩
  · subst hb
    have hnote := hclear.not_infix_append hx hy
    rw [List.append_assoc] at hright
    refine ⟨⟨l, x ++ y, rest, ?_, hleft, hright, hnote, hopened, hclosed⟩, ?_, .inl ?_⟩
    · rw [htext]
      simp
    · rw [hfloor]
      exact hle
    · rw [hfloor, ← List.append_assoc]
      exact byteSize_mono (List.prefix_append _ _)

/-- **The span at a cursor bounds one whole note.**  Its ends are places at which the text can be
cut; no delimiter lies between them, and each of them is at a delimiter or at an end of the text.
The cursor is not before the note, and it is behind it only if it lies inside of the delimiter that
follows.  To read, cut out or replace the note at the cursor concerns just this part of the text,
and the note by itself is the note at any cursor. -/
theorem span_bounds_note (d : Delimiter) (text : List Char) (cursor : ℕ) :
    ∃ e : d.Enclosed text (d.span text cursor),
      ((d.span text cursor).left ≤ (d.span text cursor).right ∧
        (d.span text cursor).right ≤ byteSize text) ∧
      (d.span text cursor).left ≤ floorOffset cursor text ∧
      (floorOffset cursor text ≤ (d.span text cursor).right ∨
        (∃ u v, text = u ++ d.chars ++ v ∧ byteSize u < floorOffset cursor text ∧
          floorOffset cursor text < byteSize (u ++ d.chars)) ∧
        (d.span text cursor).right < floorOffset cursor text ∧
        floorOffset cursor text < (d.span text cursor).right + byteSize d.chars) ∧
      d.noteAt text cursor = e.note ∧
      d.cutAt text cursor = ⟨e.note, closeGap d.chars e.before e.behind⟩ ∧
      (∀ new, d.replaceNoteAt text cursor new = e.before ++ new ++ e.behind) ∧
      ∀ again, d.noteAt (d.noteAt text cursor) again = d.noteAt text cursor := by
  obtain ⟨e, hbegins, hends⟩ := d.exists_enclosed text cursor
  refine ⟨e, ⟨e.left_le_right, e.right_le⟩, ?_, ?_, e.noteAt_eq, ?_, e.replaceNoteAt_eq, ?_⟩
  · rw [e.left_eq]
    exact hbegins
  · rw [e.right_eq]
    rcases hends with hle | ⟨v, hv, hlt, hgt⟩
    · exact .inl hle
    · refine .inr ⟨⟨e.before ++ e.note, v, ?_, hlt, hgt⟩, hlt, ?_⟩
      · rw [List.append_assoc, ← hv]
        exact e.text_eq
      · rwa [← byteSize_append]
  · rw [cutAt, e.noteAt_eq, e.deleteAt_eq]
  · intro again
    obtain ⟨e', -⟩ := d.exists_enclosed e.note again
    rw [e.noteAt_eq, e'.noteAt_eq]
    exact e'.note_eq_text e.free

/-- Of two delimiters that overlap, the one that begins at the snapped cursor ends the note. -/
example : (Delimiter.mk ['a', 'a'] (by decide)).span "aaa".toList 2 = ⟨0, 1⟩ := by decide

end Delimiter

end Scratchpad.Note
