import Scratchpad.Proofs.Note.Cut

/-!
# Cutting notes one after another

Whoever cuts a note out of a text, then one out of what remains, and so on, gets every note that
holds anything once, wherever the cursors are, and comes to the empty text.  Empty notes may
disappear on the way, since each cut also drops delimiters at the ends of the text.

* `cutAll` — one cut for each cursor of a list.
* `length_notes_closeGap_le` — a cut leaves one note less, or a single one that is empty.
* `remaining_cutAll` — as many cuts as there are notes leave nothing.
* `perm_cutAt`, `perm_cutAll` — what is cut out and what remains are the notes of the text.
* **`cutAll_spec`** — both together.

All of this needs a delimiter that cannot overlap itself.
-/

namespace Scratchpad.Note

open Text

/-- The notes that were cut out one after another, and the text without them. -/
structure Cuts where
  notes : List (List Char)
  remaining : List Char
  deriving DecidableEq

namespace Delimiter

variable (d : Delimiter)

/-- Cut out one note for each cursor, each time from what the cut before has left. -/
def cutAll : (cursors : List ℕ) → (text : List Char) → Cuts
  | [], text => ⟨[], text⟩
  | cursor :: cursors, text =>
    let cut := d.cutAt text cursor
    let rest := cutAll cursors cut.remaining
    ⟨cut.note :: rest.notes, rest.remaining⟩

@[simp]
lemma notes_cutAll_cons (cursor : ℕ) (cursors : List ℕ) (text : List Char) :
    (d.cutAll (cursor :: cursors) text).notes
      = (d.cutAt text cursor).note :: (d.cutAll cursors (d.cutAt text cursor).remaining).notes :=
  rfl

@[simp]
lemma remaining_cutAll_cons (cursor : ℕ) (cursors : List ℕ) (text : List Char) :
    (d.cutAll (cursor :: cursors) text).remaining
      = (d.cutAll cursors (d.cutAt text cursor).remaining).remaining := rfl

variable {d} {A B : List (List Char)}

/-! ## Every cut leaves fewer notes -/

/-- A delimiter that is dropped at the beginning takes the empty note before it away. -/
lemma length_notes_dropOpening (d : Delimiter) (text : List Char) :
    (d.notes (dropOpening d.chars text)).length + (if d.chars <+: text then 1 else 0)
      = (d.notes text).length := by
  by_cases hpre : d.chars <+: text
  · obtain ⟨rest, rfl⟩ := hpre
    have hnotes : d.notes (d.chars ++ rest) = [] :: d.notes rest :=
      splitOn_part_append d.chars_ne_nil rest
    simp [dropOpening, hnotes]
  · rw [if_neg hpre, Nat.add_zero, dropOpening_of_not_prefix hpre]

section

variable (hd : Unbordered d.chars)

include hd

/-- A delimiter that is dropped at the end takes the empty note behind it away. -/
lemma length_notes_dropClosing (text : List Char) :
    (d.notes (dropClosing d.chars text)).length + (if d.chars <:+ text then 1 else 0)
      = (d.notes text).length := by
  by_cases hsuf : d.chars <:+ text
  · obtain ⟨rest, rfl⟩ := hsuf
    have hnotes : d.notes (rest ++ d.chars) = d.notes rest ++ [[]] := by
      have := splitOn_part_between d.chars_ne_nil hd rest []
      rwa [List.append_nil, splitOn_nil] at this
    simp [dropClosing, hnotes]
  · rw [dropClosing_of_not_suffix hsuf, if_neg hsuf, Nat.add_zero]

/-- With a delimiter at an end of the text goes one note at least. -/
lemma length_notes_dropEnds_le (text : List Char) :
    (d.notes (dropClosing d.chars (dropOpening d.chars text))).length
        + (if d.chars <+: text ∨ d.chars <:+ text then 1 else 0)
      ≤ (d.notes text).length := by
  have hopening := d.length_notes_dropOpening text
  have hclosing := length_notes_dropClosing hd (dropOpening d.chars text)
  by_cases hpre : d.chars <+: text
  · rw [if_pos hpre] at hopening
    rw [if_pos (.inl hpre)]
    omega
  · have hsame := dropOpening_of_not_prefix hpre
    rw [hsame] at hclosing ⊢
    simp only [hpre, false_or]
    omega

/-- **Closing the gap leaves no more than the other notes**, or one note if there is no other. -/
theorem length_notes_closeGap_le (hA : Free d.chars A) (hB : Free d.chars B) :
    (d.notes (closeGap d.chars (d.opening A) (d.closing B))).length
      ≤ max 1 (A.length + B.length) := by
  rw [closeGap_eq hd hA hB]
  split
  · rw [notes, splitOn_nil]
    exact le_max_left _ _
  · have hjoined : d.notes (d.chars.intercalate (joinSides A B)) = joinSides A B :=
      splitOn_intercalate d.chars_ne_nil hd joinSides_ne_nil (free_joinSides hA hB)
    have hends := length_notes_dropEnds_le hd (d.chars.intercalate (joinSides A B))
    rw [hjoined] at hends
    by_cases hAnil : A = [] <;> by_cases hBnil : B = []
    · have hone : (joinSides A B).length = 1 := by simp [joinSides, hAnil, hBnil]
      omega
    · -- the gap is an empty note at the beginning
      have hgap : joinSides A B = [] :: B := by simp [joinSides, hAnil]
      have hpre : d.chars <+: d.chars.intercalate (joinSides A B) :=
        (prefix_intercalate_iff d.chars_ne_nil hd joinSides_ne_nil (free_joinSides hA hB)).mpr
          ⟨B, hBnil, hgap⟩
      have hlen : (joinSides A B).length = B.length + 1 := by simp [hgap]
      rw [if_pos (.inl hpre)] at hends
      omega
    · -- the gap is an empty note at the end
      have hgap : joinSides A B = A ++ [[]] := by simp [joinSides, hBnil]
      have hsuf : d.chars <:+ d.chars.intercalate (joinSides A B) :=
        (suffix_intercalate_iff d.chars_ne_nil hd joinSides_ne_nil (free_joinSides hA hB)).mpr
          ⟨A, hAnil, hgap⟩
      have hlen : (joinSides A B).length = A.length + 1 := by simp [hgap]
      rw [if_pos (.inr hsuf)] at hends
      omega
    · have hlen : (joinSides A B).length = A.length + B.length := by
        simp [joinSides, hAnil, hBnil]
      omega

/-- The only note of a text leaves nothing. -/
lemma remaining_cutAt_of_length_notes {text : List Char} (hone : (d.notes text).length ≤ 1)
    (cursor : ℕ) : (d.cutAt text cursor).remaining = [] := by
  obtain ⟨p, hp⟩ := d.exists_covers text cursor
  have hlen := p.length_notes
  have hbefore : p.before = [] := List.length_eq_zero_iff.mp (by omega)
  have hbehind : p.behind = [] := List.length_eq_zero_iff.mp (by omega)
  rw [cutAt, hp.deleteAt_eq hd, closeGap_eq_intercalate hd p.free_before p.free_behind
    (by simp [hbefore]) (by simp [hbehind]), hbefore, hbehind]
  rfl

/-- **Each cut leaves one note less**, or a single one. -/
lemma length_notes_cutAt_le (text : List Char) (cursor : ℕ) :
    (d.notes (d.cutAt text cursor).remaining).length ≤ max 1 ((d.notes text).length - 1) := by
  obtain ⟨p, hp⟩ := d.exists_covers text cursor
  have hlen := p.length_notes
  have hle := length_notes_closeGap_le hd p.free_before p.free_behind
  rw [← hp.deleteAt_eq hd] at hle
  refine hle.trans (le_of_eq ?_)
  rw [hlen, ← Nat.add_assoc, Nat.add_sub_cancel]

/-- **As many cuts as there are notes leave nothing.** -/
theorem remaining_cutAll {cursors : List ℕ} {text : List Char}
    (h : (d.notes text).length ≤ cursors.length) : (d.cutAll cursors text).remaining = [] := by
  induction cursors generalizing text with
  | nil => exact absurd (List.length_eq_zero_iff.mp (Nat.le_zero.mp h)) (splitOn_ne_nil text)
  | cons cursor cursors ih =>
      have hless := length_notes_cutAt_le hd text cursor
      rw [List.length_cons] at h
      rw [remaining_cutAll_cons]
      cases cursors with
      | nil => exact remaining_cutAt_of_length_notes hd h cursor
      | cons next cursors =>
          refine ih ?_
          rw [List.length_cons] at h ⊢
          omega

/-! ## What is cut out and what remains -/

/-- **One cut**: what is cut out and what remains are the notes of the text. -/
theorem perm_cutAt (text : List Char) (cursor : ℕ) :
    (((d.cutAt text cursor).note :: d.notes (d.cutAt text cursor).remaining).filter (· ≠ [])).Perm
      ((d.notes text).filter (· ≠ [])) := by
  obtain ⟨p, hp⟩ := d.exists_covers text cursor
  obtain ⟨L, hL, hfree, hclose, hfilter⟩ := exists_closeGap_eq hd p.free_before p.free_behind
  have hremaining : d.notes (d.cutAt text cursor).remaining = L := by
    rw [cutAt, hp.deleteAt_eq hd, hclose]
    exact splitOn_intercalate d.chars_ne_nil hd hL hfree
  have hnote : (d.cutAt text cursor).note = p.note := hp.noteAt_eq hd
  have hcons : (p.note :: L).filter (· ≠ [])
      = (p.note :: (p.before ++ p.behind)).filter (· ≠ []) := by
    rw [List.filter_cons, List.filter_cons, hfilter]
  rw [hremaining, hnote, hcons, p.notes_eq]
  exact List.perm_middle.symm.filter _

/-- **Any number of cuts**: the same, whether something remains or not. -/
theorem perm_cutAll (cursors : List ℕ) (text : List Char) :
    (((d.cutAll cursors text).notes ++ d.notes (d.cutAll cursors text).remaining).filter
      (· ≠ [])).Perm ((d.notes text).filter (· ≠ [])) := by
  induction cursors generalizing text with
  | nil => exact .refl _
  | cons cursor cursors ih =>
      refine .trans ?_ (perm_cutAt hd text cursor)
      rw [notes_cutAll_cons, remaining_cutAll_cons, List.cons_append, List.filter_cons,
        List.filter_cons]
      split
      · exact (ih _).cons _
      · exact ih _

end

/-- **Cutting notes one after another neither loses nor duplicates a note.**  The delimiter must not
overlap itself, and the default one does not.  With a cursor for each note of the text at least, the
cuts come to the empty text once as many have been made as there are notes, and stay there; the
notes cut out that hold anything are those of the text. -/
theorem cutAll_spec : Unbordered Delimiter.default.chars ∧
    ∀ d : Delimiter, Unbordered d.chars → ∀ (text : List Char) (cursors : List ℕ),
      (d.notes text).length ≤ cursors.length →
        (d.cutAll (cursors.take (d.notes text).length) text).remaining = [] ∧
        (d.cutAll cursors text).remaining = [] ∧
        ((d.cutAll cursors text).notes.filter (· ≠ [])).Perm
          ((d.notes text).filter (· ≠ [])) := by
  refine ⟨by decide, fun d hd text cursors hlen => ?_⟩
  have hempty : (d.cutAll cursors text).remaining = [] := remaining_cutAll hd hlen
  refine ⟨remaining_cutAll hd (by rw [List.length_take, min_eq_left hlen]), hempty, ?_⟩
  have hperm := perm_cutAll hd cursors text
  have hnone : d.notes [] = [[]] := splitOn_nil
  rw [hempty, hnone] at hperm
  simpa using hperm

/-- A delimiter at the beginning, an empty note between two others, and the same note twice: four
cursors, the first of which is behind the end. -/
theorem cutAll_same_note_twice :
    let text := ")))---(((\na)))---(((\n)))---(((\na".toList
    let cursors := [99, 10, 3, 0]
    Unbordered Delimiter.default.chars ∧
      (Delimiter.default.notes text).length ≤ cursors.length ∧
      (Delimiter.default.cutAll cursors text).remaining = [] ∧
      ((Delimiter.default.cutAll cursors text).notes.filter (· ≠ [])).Perm
        ["a".toList, "a".toList] := by
  intro text cursors
  have hnotes : Delimiter.default.notes text = [[], "a".toList, [], "a".toList] := by
    decide +kernel
  clear_value text
  have hlen : (Delimiter.default.notes text).length ≤ cursors.length := by rw [hnotes]; decide
  obtain ⟨-, hremaining, hperm⟩ :=
    cutAll_spec.2 Delimiter.default cutAll_spec.1 text cursors hlen
  rw [hnotes] at hperm
  exact ⟨cutAll_spec.1, hlen, hremaining, hperm⟩

end Delimiter

end Scratchpad.Note
