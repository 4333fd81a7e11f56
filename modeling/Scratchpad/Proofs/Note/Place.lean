import Scratchpad.Proofs.Note.Span
import Scratchpad.Proofs.Text.Unbordered

/-!
# The note that a cursor belongs to

A text is its notes with a delimiter between any two of them.  A place is one of these notes with
the notes around it; a cursor belongs to the last place that begins at or before it.

* `Place`, `Place.text_eq` — a note, and the text as what stands before it, the note, and what
  stands behind it.
* `Place.occurrence_cases` — every occurrence of the delimiter lies on one side of the note.
* `Place.Covers`, `exists_covers` — the cursor belongs to the note, and it belongs to some note.
* `Place.Covers.span_eq_of_apart` — the span at the cursor is the note that the cursor belongs to.

The first and the last of these need occurrences that lie apart.  Those of a delimiter that cannot
overlap itself do in every text.
-/

namespace Scratchpad.Note.Delimiter

open Text

variable (d : Delimiter)

/-- The text of the notes before another note: a delimiter follows each of them. -/
def opening (A : List (List Char)) : List Char := A.flatMap (· ++ d.chars)

/-- The text of the notes behind another note: a delimiter stands before each of them. -/
def closing (B : List (List Char)) : List Char := B.flatMap (d.chars ++ ·)

/-- The byte offset at which the note number `i` begins. -/
def noteStart (text : List Char) (i : ℕ) : ℕ := byteSize (d.opening ((d.notes text).take i))

@[simp]
lemma opening_nil : d.opening [] = [] := rfl

@[simp]
lemma closing_nil : d.closing [] = [] := rfl

@[simp]
lemma opening_append (A A' : List (List Char)) :
    d.opening (A ++ A') = d.opening A ++ d.opening A' := List.flatMap_append

@[simp]
lemma opening_singleton (n : List Char) : d.opening [n] = n ++ d.chars := by simp [opening]

@[simp]
lemma closing_cons (n : List Char) (B : List (List Char)) :
    d.closing (n :: B) = d.chars ++ n ++ d.closing B := List.flatMap_cons

lemma opening_eq {A : List (List Char)} (h : A ≠ []) :
    d.opening A = d.chars.intercalate A ++ d.chars := by
  induction A with
  | nil => exact absurd rfl h
  | cons n A ih =>
      by_cases hA : A = []
      · simp [hA]
      · rw [← List.singleton_append, opening_append, ih hA, intercalate_append [n] (by simp) hA]
        simp

lemma closing_eq {B : List (List Char)} (h : B ≠ []) :
    d.closing B = d.chars ++ d.chars.intercalate B := by
  induction B with
  | nil => exact absurd rfl h
  | cons n B ih =>
      by_cases hB : B = []
      · simp [hB]
      · rw [closing_cons, ih hB, List.intercalate_cons_of_ne_nil hB]
        simp

/-- A joined text, seen from one of its notes. -/
lemma intercalate_eq (A : List (List Char)) (n : List Char) (B : List (List Char)) :
    d.chars.intercalate (A ++ n :: B) = d.opening A ++ n ++ d.closing B := by
  have hB : d.chars.intercalate (n :: B) = n ++ d.closing B := by
    by_cases h : B = []
    · simp [h]
    · rw [List.intercalate_cons_of_ne_nil h, d.closing_eq h, List.append_assoc]
  by_cases hA : A = []
  · simp [hA, hB]
  · rw [intercalate_append A hA (List.cons_ne_nil n B), hB, d.opening_eq hA]
    simp

/-- A note of the text, with the notes before and behind it. -/
structure Place (text : List Char) where
  before : List (List Char)
  note : List Char
  behind : List (List Char)
  notes_eq : d.notes text = before ++ note :: behind

namespace Place

variable {d} {text : List Char} (p : d.Place text)

/-- The text around the note. -/
theorem text_eq : text = d.opening p.before ++ p.note ++ d.closing p.behind := by
  rw [← d.intercalate_eq, ← p.notes_eq, notes, intercalate_splitOn d.chars_ne_nil]

/-- **Every occurrence of the delimiter lies on one side of the note.** -/
theorem occurrence_cases (ha : Apart d.chars text) {u v : List Char}
    (h : text = u ++ d.chars ++ v) :
    u ++ d.chars <+: d.opening p.before ∨ d.opening p.before ++ p.note <+: u := by
  have hu : d.chars.intercalate (d.notes u) = u := intercalate_splitOn d.chars_ne_nil u
  have hopen : d.opening (d.notes u) = u ++ d.chars := by
    rw [d.opening_eq (A := d.notes u) (splitOn_ne_nil u), hu]
  have hnotes : d.notes u ++ d.notes v = p.before ++ p.note :: p.behind := by
    rw [← p.notes_eq, h]
    exact (splitOn_between d.chars_ne_nil (ha.of_prefix ⟨v, h.symm⟩) v).symm
  rcases List.append_eq_append_iff.mp hnotes with ⟨t, ht, -⟩ | ⟨s, hs, hsv⟩
  · left
    rw [ht, opening_append, hopen]
    exact List.prefix_append _ _
  · cases s with
    | nil =>
        left
        rw [← hopen, hs, List.append_nil]
    | cons n s =>
        right
        obtain ⟨rfl, -⟩ := List.cons.inj hsv
        rw [← hu, hs, d.intercalate_eq]
        exact List.prefix_append _ _

/-- From inside of the note on, the first delimiter is the one behind the note. -/
lemma beforeFirst_eq (ha : Apart d.chars text) {x y : List Char}
    (hxy : p.note = x ++ y) : beforeFirst d.chars (y ++ d.closing p.behind) = y := by
  refine beforeFirst_eq_iff.mpr ⟨d.closing p.behind, rfl, ?_, fun u v huv => ?_⟩
  · by_cases hB : p.behind = []
    · simp [hB]
    · rw [d.closing_eq hB]
      exact .inr (List.prefix_append _ _)
  · have hocc : text = (d.opening p.before ++ x ++ u) ++ d.chars ++ v := by
      refine p.text_eq.trans ?_
      rw [hxy, List.append_assoc _ (x ++ y), List.append_assoc x, huv]
      simp
    rcases p.occurrence_cases ha hocc with h | h
    · have hlen := h.length_le
      have hpos := List.length_pos_iff.mpr d.chars_ne_nil
      simp only [List.length_append] at hlen
      omega
    · have hlen := h.length_le
      rw [hxy] at hlen
      simp only [List.length_append] at hlen
      omega

/-- Up to there, the last delimiter is the one before the note. -/
lemma leftIndex_eq (ha : Apart d.chars text) {cursor : ℕ} {x y : List Char}
    (hxy : p.note = x ++ y) (hsnap : d.snap text cursor = byteSize (d.opening p.before ++ x)) :
    d.leftIndex text cursor = byteSize (d.opening p.before) := by
  have htext : text = (d.opening p.before ++ x) ++ (y ++ d.closing p.behind) := by
    refine p.text_eq.trans ?_
    rw [hxy]
    simp
  have hafter {u v : List Char} (huv : d.opening p.before ++ x = u ++ d.chars ++ v) :
      u ++ d.chars <+: d.opening p.before := by
    have hocc : text = u ++ d.chars ++ (v ++ (y ++ d.closing p.behind)) := by
      rw [← List.append_assoc, ← huv]
      exact htext
    refine (p.occurrence_cases ha hocc).resolve_right fun hu => ?_
    have hlen := hu.length_le
    have hlen' := congrArg List.length huv
    have hpos := List.length_pos_iff.mpr d.chars_ne_nil
    rw [hxy] at hlen
    simp only [List.length_append] at hlen hlen'
    omega
  by_cases hA : p.before = []
  · rw [leftIndex_of_snap_of_absent htext hsnap ?_, hA]
    · rfl
    · rintro ⟨u, v, huv⟩
      have := hafter huv.symm
      rw [hA, opening_nil, List.prefix_nil, List.append_eq_nil_iff] at this
      exact d.chars_ne_nil this.2
  · have hopen := d.opening_eq hA
    rw [leftIndex_of_snap htext hsnap (u := d.chars.intercalate p.before) (by rw [hopen]) ?_, hopen]
    intro u v huv
    have hlen := (hafter huv).length_le
    rw [hopen] at hlen
    simp only [List.length_append] at hlen
    omega

/-- The cursor belongs to this note: the note begins at or before the cursor, and no later note
does. -/
structure Covers (cursor : ℕ) : Prop where
  begins : byteSize (d.opening p.before) ≤ floorOffset cursor text
  next : p.behind ≠ [] →
    floorOffset cursor text < byteSize (d.opening p.before ++ p.note ++ d.chars)

end Place

/-- Of some pieces, the last that begins at or before an offset. -/
lemma exists_last_opening (k : ℕ) {L : List (List Char)} (hL : L ≠ []) :
    ∃ A n B, L = A ++ n :: B ∧ byteSize (d.opening A) ≤ k ∧
      (B ≠ [] → k < byteSize (d.opening A ++ n ++ d.chars)) := by
  induction L generalizing k with
  | nil => exact absurd rfl hL
  | cons n L ih =>
      by_cases hk : L = [] ∨ k < byteSize (n ++ d.chars)
      · exact ⟨[], n, L, rfl, Nat.zero_le k, fun h => hk.resolve_left h⟩
      · rw [not_or] at hk
        obtain ⟨A, m, B, rfl, hle, hlt⟩ := ih (k - byteSize (n ++ d.chars)) hk.1
        refine ⟨n :: A, m, B, rfl, ?_, fun hB => ?_⟩
        · rw [← List.singleton_append, opening_append, byteSize_append, opening_singleton]
          omega
        · have := hlt hB
          rw [← List.singleton_append, opening_append, opening_singleton, List.append_assoc,
            List.append_assoc, byteSize_append, ← List.append_assoc]
          omega

/-- **Every cursor belongs to a note.** -/
theorem exists_covers (text : List Char) (cursor : ℕ) : ∃ p : d.Place text, p.Covers cursor := by
  obtain ⟨A, n, B, hnotes, hbegins, hnext⟩ :=
    d.exists_last_opening (floorOffset cursor text) (L := d.notes text) (splitOn_ne_nil text)
  exact ⟨⟨A, n, B, hnotes⟩, hbegins, hnext⟩

namespace Place.Covers

variable {d} {text : List Char} {cursor : ℕ} {p : d.Place text}

/-- The search begins inside of the note or at its end. -/
lemma exists_snap (ha : Apart d.chars text) (h : p.Covers cursor) :
    ∃ x y, p.note = x ++ y ∧ d.snap text cursor = byteSize (d.opening p.before ++ x) := by
  obtain ⟨a, b, hab, hfloor⟩ := exists_floorOffset cursor text
  have htext := p.text_eq
  have hbegins := h.begins
  rw [hfloor] at hbegins
  obtain ⟨x, rfl⟩ : d.opening p.before <+: a := by
    have hsame : d.opening p.before ++ (p.note ++ d.closing p.behind) = a ++ b := by
      rw [← hab, ← List.append_assoc, ← htext]
    exact prefix_of_byteSize_le hsame hbegins
  by_cases hx : byteSize (d.opening p.before ++ x) ≤ byteSize (d.opening p.before ++ p.note)
  · -- The cursor is in the note, so that no occurrence reaches across it.
    have hpre : d.opening p.before ++ x <+: d.opening p.before ++ p.note :=
      prefix_of_byteSize_le (hab.symm.trans htext) hx
    obtain ⟨y, hy⟩ := (List.prefix_append_right_inj _).mp hpre
    refine ⟨x, y, hy.symm, ?_⟩
    rcases d.snap_spec text cursor with ⟨u, v, huv, -, hlt, hgt, -⟩ | ⟨hsnap, -⟩
    · exfalso
      rw [hfloor] at hlt hgt
      rcases p.occurrence_cases ha huv with hu | hu
      · have := byteSize_mono hu
        omega
      · have := byteSize_mono hu
        omega
    · rw [hsnap, hfloor]
  · -- The cursor is in the delimiter behind the note.
    refine ⟨p.note, [], (List.append_nil _).symm, ?_⟩
    have hbehind : p.behind ≠ [] := by
      intro hnil
      rw [hnil, closing_nil, List.append_nil] at htext
      exact hx (byteSize_mono ⟨b, by rw [← hab, ← htext]⟩)
    have hnext := h.next hbehind
    have hocc : text = d.opening p.before ++ p.note ++ d.chars ++ d.chars.intercalate p.behind := by
      rw [List.append_assoc _ d.chars, ← d.closing_eq hbehind, ← htext]
    rcases d.snap_spec text cursor with ⟨u, v, huv, hsnap, -, hgt, hmin⟩ | ⟨-, hnone⟩
    · rw [hsnap]
      refine le_antisymm (hmin _ _ hocc hnext) ?_
      rcases p.occurrence_cases ha huv with hu | hu
      · have := byteSize_mono hu
        have := h.begins
        omega
      · exact byteSize_mono hu
    · have := hnone _ _ hocc (by rw [hfloor]; omega)
      omega

/-- **The span at the cursor is the note that the cursor belongs to**, if the delimiters of the text
lie apart. -/
theorem span_eq_of_apart (ha : Apart d.chars text) (h : p.Covers cursor) :
    d.span text cursor
      = ⟨byteSize (d.opening p.before), byteSize (d.opening p.before ++ p.note)⟩ := by
  obtain ⟨x, y, hxy, hsnap⟩ := h.exists_snap ha
  have htext : text = (d.opening p.before ++ x) ++ (y ++ d.closing p.behind) := by
    refine p.text_eq.trans ?_
    rw [hxy]
    simp
  rw [span, p.leftIndex_eq ha hxy hsnap, rightIndex_of_snap htext hsnap, p.beforeFirst_eq ha hxy,
    hxy, List.append_assoc]

/-- The text at that span is the note. -/
theorem noteAt_eq_of_apart (ha : Apart d.chars text) (h : p.Covers cursor) :
    d.noteAt text cursor = p.note := by
  rw [noteAt, h.span_eq_of_apart ha]
  conv_lhs => arg 3; rw [p.text_eq]
  exact sliceBytes_byteSize _ _ _

theorem span_eq (hd : Unbordered d.chars) (h : p.Covers cursor) :
    d.span text cursor
      = ⟨byteSize (d.opening p.before), byteSize (d.opening p.before ++ p.note)⟩ :=
  h.span_eq_of_apart (hd.apart text)

theorem noteAt_eq (hd : Unbordered d.chars) (h : p.Covers cursor) :
    d.noteAt text cursor = p.note :=
  h.noteAt_eq_of_apart (hd.apart text)

end Place.Covers

end Scratchpad.Note.Delimiter
