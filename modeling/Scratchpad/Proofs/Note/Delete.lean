import Scratchpad.Proofs.Note.Bounds

/-!
# What deleting a note leaves

The gap of a deleted note is closed in two steps: of two delimiters that meet in it one is left out,
and then one delimiter is dropped at each end of the text.  Every statement here is about every
delimiter, also one that can overlap itself.

* `joined`, `dropEnds`, `closeGap_eq_dropEnds` — the two steps; two delimiters and nothing else are
  no case of their own.
* **`deleteRange_eq_dropEnds`** — any range is deleted in these two steps.
* `byteSize_deleteAt_lt` — a deletion makes the text shorter, and
* **`deleteAt_progress`** — a run of deletions comes to the empty text, wherever the cursors are.
* **`deleteAt_ends_iff`** — when a text without a delimiter at its ends is left with one there.
-/

namespace Scratchpad.Note

open Text

variable {part before after : List Char}

/-- The two sides of a gap.  Of two occurrences of `part` that meet in it one is left out. -/
def joined (part before after : List Char) : List Char :=
  before ++ if part <:+ before ∧ part <+: after then after.drop part.length else after

/-- The text without one occurrence of `part` at its beginning and one at its end. -/
def dropEnds (part text : List Char) : List Char := dropClosing part (dropOpening part text)

/-! ## Joining the two sides -/

lemma joined_nil_left (hpart : part ≠ []) : joined part [] after = after := by
  simp [joined, hpart]

lemma joined_nil_right (hpart : part ≠ []) : joined part before [] = before := by
  simp [joined, hpart]

lemma joined_meet (s t : List Char) : joined part (s ++ part) (part ++ t) = s ++ part ++ t := by
  simp [joined]

lemma byteSize_joined_le (part before after : List Char) :
    byteSize (joined part before after) ≤ byteSize before + byteSize after := by
  rw [joined, byteSize_append]
  split
  · next h =>
    obtain ⟨t, rfl⟩ := h.2
    rw [List.drop_left, byteSize_append part]
    omega
  · exact le_rfl

/-! ## Dropping the ends -/

lemma dropEnds_part_append (t : List Char) : dropEnds part (part ++ t) = dropClosing part t := by
  rw [dropEnds, dropOpening_part_append]

lemma dropEnds_of_notPrefix {text : List Char} (h : ¬ part <+: text) :
    dropEnds part text = dropClosing part text := by
  rw [dropEnds, dropOpening_of_not_prefix h]

lemma dropEnds_nil : dropEnds part [] = [] := by
  simp [dropEnds, dropOpening, dropClosing]

lemma byteSize_dropClosing_le (part text : List Char) :
    byteSize (dropClosing part text) ≤ byteSize text := by
  by_cases h : part <:+ text
  · obtain ⟨s, rfl⟩ := h
    rw [dropClosing_append_part]
    exact byteSize_mono (List.prefix_append s part)
  · rw [dropClosing_of_not_suffix h]

lemma byteSize_dropEnds_le (part text : List Char) :
    byteSize (dropEnds part text) ≤ byteSize text := by
  by_cases hpre : part <+: text
  · obtain ⟨t, rfl⟩ := hpre
    have := byteSize_dropClosing_le part t
    rw [dropEnds_part_append, byteSize_append]
    omega
  · rw [dropEnds_of_notPrefix hpre]
    exact byteSize_dropClosing_le part text

lemma byteSize_dropEnds_lt (hpart : part ≠ []) {text : List Char}
    (h : part <+: text ∨ part <:+ text) : byteSize (dropEnds part text) < byteSize text := by
  have hpos := byteSize_pos hpart
  by_cases hpre : part <+: text
  · obtain ⟨t, rfl⟩ := hpre
    have := byteSize_dropClosing_le part t
    rw [dropEnds_part_append, byteSize_append]
    omega
  · obtain ⟨s, rfl⟩ := h.resolve_left hpre
    rw [dropEnds_of_notPrefix hpre, dropClosing_append_part, byteSize_append]
    omega

/-! ## Both steps -/

lemma dropEnds_joined_of_two (h : before ++ after = part ++ part) :
    dropEnds part (joined part before after) = [] := by
  by_cases hmeet : part <:+ before ∧ part <+: after
  · obtain ⟨⟨s, rfl⟩, t, rfl⟩ := hmeet
    have hlen := congrArg List.length h
    simp only [List.length_append] at hlen
    obtain rfl : s = [] := List.length_eq_zero_iff.mp (by omega)
    obtain rfl : t = [] := List.length_eq_zero_iff.mp (by omega)
    rw [joined_meet, dropEnds, List.nil_append, dropOpening_part_append]
    simp [dropClosing]
  · rw [joined, if_neg hmeet, h, dropEnds_part_append]
    exact dropClosing_append_part []

/-- **Closing a gap** is to join its two sides and then to drop the ends. -/
theorem closeGap_eq_dropEnds (hpart : part ≠ []) (before after : List Char) :
    closeGap part before after = dropEnds part (joined part before after) := by
  rw [closeGap, if_neg (by simpa using hpart)]
  split
  · next h => exact (dropEnds_joined_of_two h).symm
  · simp only [dropEnds, joined, Bool.and_eq_true, List.isSuffixOf_iff_suffix,
      List.isPrefixOf_iff_prefix]

section Sides

variable (hpart : part ≠ []) (hbefore : before = [] ∨ part <:+ before)
  (hafter : after = [] ∨ part <+: after)

include hpart hbefore hafter

/-- Even if the gap is empty, a delimiter disappears from beside it. -/
lemma byteSize_dropEnds_joined_lt (hne : before ++ after ≠ []) :
    byteSize (dropEnds part (joined part before after)) < byteSize before + byteSize after := by
  have hpos := byteSize_pos hpart
  rcases hbefore with rfl | ⟨s, rfl⟩ <;> rcases hafter with rfl | ⟨t, rfl⟩
  · exact absurd rfl hne
  · rw [joined_nil_left hpart]
    have := byteSize_dropEnds_lt hpart (.inl (List.prefix_append part t))
    omega
  · rw [joined_nil_right hpart]
    have := byteSize_dropEnds_lt hpart (.inr (List.suffix_append s part))
    omega
  · rw [joined_meet]
    have := byteSize_dropEnds_le part (s ++ part ++ t)
    simp only [byteSize_append] at this ⊢
    omega

/-- If nothing but the gap lies at an end of the text, the delimiter beside it is dropped there, and
the next one only follows if there is another right behind it. -/
lemma dropEnds_joined_ends_iff (hpre : ¬ part <+: before) (hsuf : ¬ part <:+ after) :
    (part <+: dropEnds part (joined part before after) ↔ before = [] ∧ part ++ part <+: after) ∧
      (part <:+ dropEnds part (joined part before after) ↔
        after = [] ∧ part ++ part <:+ before) := by
  rcases hbefore with rfl | ⟨s, rfl⟩ <;> rcases hafter with rfl | ⟨t, rfl⟩
  · rw [joined_nil_left hpart, dropEnds_nil]
    simp [hpart]
  · have ht : ¬ part <:+ t := fun h => hsuf (h.trans (List.suffix_append part t))
    rw [joined_nil_left hpart, dropEnds_part_append, dropClosing_of_not_suffix ht]
    simp [ht, hpart, List.prefix_append_right_inj]
  · have hs : ¬ part <+: s := fun h => hpre (h.trans (List.prefix_append s part))
    rw [joined_nil_right hpart, dropEnds_of_notPrefix hpre, dropClosing_append_part]
    simp [hs, hpart, List.suffix_append_self_iff]
  · have hpre' : ¬ part <+: s ++ part ++ t := fun h =>
      hpre (List.prefix_of_prefix_length_le h (List.prefix_append _ t) (by simp))
    have hsuf' : ¬ part <:+ s ++ part ++ t := fun h =>
      hsuf (List.suffix_of_suffix_length_le h ⟨s, by simp⟩ (by simp))
    rw [joined_meet, dropEnds_of_notPrefix hpre', dropClosing_of_not_suffix hsuf']
    simp only [hpre', hsuf', false_iff]
    simp [hpart]

end Sides

/-! ## Any range -/

/-- Two offsets of any kind cut the text in three, once each has gone down to a character boundary
and the right one is at least the left one. -/
lemma exists_range (text : List Char) (left right : ℕ) :
    ∃ before gap after, text = before ++ gap ++ after ∧
      floorOffset left text = byteSize before ∧
      max (floorOffset right text) (floorOffset left text) = byteSize (before ++ gap) := by
  obtain ⟨a, b, hab, hleft⟩ := exists_floorOffset left text
  obtain ⟨a', b', hab', hright⟩ := exists_floorOffset right text
  rw [hleft, hright]
  rcases le_total (byteSize a) (byteSize a') with hle | hle
  · obtain ⟨gap, rfl⟩ := prefix_of_byteSize_le (hab.symm.trans hab') hle
    exact ⟨a, gap, b', hab', rfl, max_eq_left hle⟩
  · exact ⟨a, [], b, by rwa [List.append_nil], rfl, by rw [max_eq_right hle, List.append_nil]⟩

/-- An empty delimiter is nowhere to be dropped. -/
lemma dropEnds_joined_nil (before after : List Char) :
    dropEnds [] (joined [] before after) = before ++ after := by
  simp [dropEnds, joined, dropOpening, dropClosing]

/-- **Two delimiters and nothing else are no case of their own.**  Whatever two offsets are given,
and for any delimiter, a range is deleted by joining what stands before and behind it and by
dropping the ends.  If that is two delimiters and nothing else, nothing remains of them, also where
the gap lies inside of a delimiter and where the delimiter can overlap itself. -/
theorem deleteRange_eq_dropEnds (part text : List Char) (left right : ℕ) :
    ∃ before gap after, text = before ++ gap ++ after ∧
      floorOffset left text = byteSize before ∧
      max (floorOffset right text) (floorOffset left text) = byteSize (before ++ gap) ∧
      (before ++ after = part ++ part → dropEnds part (joined part before after) = []) ∧
      deleteRange part text left right = dropEnds part (joined part before after) := by
  obtain ⟨before, gap, after, htext, hleft, hright⟩ := exists_range text left right
  refine ⟨before, gap, after, htext, hleft, hright, dropEnds_joined_of_two, ?_⟩
  rw [deleteRange_eq_closeGap htext hleft hright]
  by_cases hpart : part = []
  · rw [hpart, dropEnds_joined_nil]
    rfl
  · exact closeGap_eq_dropEnds hpart before after

/-- The left offset lies inside a character of two bytes, and the gap inside the first of two
delimiters. -/
theorem deleteRange_eq_dropEnds_inside :
    let part := "aa".toList
    let text := "aöaaa".toList
    ∃ before gap after, text = before ++ gap ++ after ∧ before = ['a'] ∧ after = "aaa".toList ∧
      before ++ after = part ++ part ∧ dropEnds part (joined part before after) = [] ∧
      deleteRange part text 2 3 = [] := by
  intro part text
  have hfloor : floorOffset 2 text = 1 := by decide
  have hmax : max (floorOffset 3 text) (floorOffset 2 text) = 3 := by decide
  have hcut : splitAtByte 1 text = (['a'], "öaaa".toList) := by decide
  have hcut' : splitAtByte 3 text = ("aö".toList, "aaa".toList) := by decide
  have htwo : ['a'] ++ "aaa".toList = part ++ part := by decide
  clear_value text
  obtain ⟨before, gap, after, htext, hleft, hright, hempty, hdelete⟩ :=
    deleteRange_eq_dropEnds part text 2 3
  have hbefore := splitAtByte_of_eq_append (htext.trans (List.append_assoc _ _ _))
  have hafter := splitAtByte_of_eq_append htext
  rw [← hleft, hfloor, hcut] at hbefore
  rw [← hright, hmax, hcut'] at hafter
  obtain rfl := (Prod.mk.inj hbefore).1
  obtain rfl := (Prod.mk.inj hafter).2
  exact ⟨_, gap, _, htext, rfl, rfl, htwo, hempty htwo, hdelete.trans (hempty htwo)⟩

namespace Delimiter

variable {d : Delimiter} {text : List Char} {cursor : ℕ}

/-- What the deletion leaves of the text around the note. -/
theorem Enclosed.deleteAt_eq_dropEnds (e : d.Enclosed text (d.span text cursor)) :
    d.deleteAt text cursor = dropEnds d.chars (joined d.chars e.before e.behind) :=
  e.deleteAt_eq.trans (closeGap_eq_dropEnds d.chars_ne_nil _ _)

/-! ## A run of deletions -/

/-- **A deletion makes the text shorter**, also where the note at the cursor is empty. -/
theorem byteSize_deleteAt_lt (h : text ≠ []) (cursor : ℕ) :
    byteSize (d.deleteAt text cursor) < byteSize text := by
  obtain ⟨e, -⟩ := d.exists_enclosed text cursor
  have hsize : byteSize text = byteSize e.before + byteSize e.note + byteSize e.behind := by
    conv_lhs => rw [e.text_eq]
    rw [byteSize_append, byteSize_append]
  rw [e.deleteAt_eq_dropEnds]
  by_cases hnote : e.note = []
  · have hne : e.before ++ e.behind ≠ [] := by
      intro hnil
      refine h (e.text_eq.trans ?_)
      rw [hnote, List.append_nil, hnil]
    have := byteSize_dropEnds_joined_lt d.chars_ne_nil e.opened e.closed hne
    omega
  · have hpos := byteSize_pos hnote
    have hjoined := byteSize_joined_le d.chars e.before e.behind
    have := byteSize_dropEnds_le d.chars (joined d.chars e.before e.behind)
    omega

@[simp]
lemma deleteAt_nil (cursor : ℕ) : d.deleteAt [] cursor = [] := by
  obtain ⟨e, -⟩ := d.exists_enclosed [] cursor
  obtain ⟨hbefore, -, hbehind⟩ : e.before = [] ∧ e.note = [] ∧ e.behind = [] := by
    simpa using e.text_eq
  rw [e.deleteAt_eq_dropEnds, hbefore, hbehind, joined_nil_left d.chars_ne_nil, dropEnds_nil]

lemma foldl_deleteAt_nil (cursors : List ℕ) : cursors.foldl d.deleteAt [] = [] := by
  induction cursors with
  | nil => rfl
  | cons cursor cursors ih => rw [List.foldl_cons, deleteAt_nil, ih]

/-- As many deletions as the text has bytes leave nothing. -/
theorem foldl_deleteAt_eq_nil {cursors : List ℕ} (h : byteSize text ≤ cursors.length) :
    cursors.foldl d.deleteAt text = [] := by
  induction cursors generalizing text with
  | nil =>
      by_contra hne
      exact absurd (byteSize_pos hne) (not_lt.mpr h)
  | cons cursor cursors ih =>
      rw [List.foldl_cons]
      by_cases hne : text = []
      · rw [hne, deleteAt_nil, foldl_deleteAt_nil]
      · have hlt := byteSize_deleteAt_lt (d := d) hne cursor
        refine ih ?_
        rw [List.length_cons] at h
        omega

/-- **Deleting always makes progress.**  Wherever the cursor is, what is left of the text is shorter
than the text, so that a run of deletions comes to the empty text after as many deletions as the
text has bytes, if not before, and stays there. -/
theorem deleteAt_progress (d : Delimiter) (text : List Char) (h : text ≠ []) :
    (∀ cursor, byteSize (d.deleteAt text cursor) < byteSize text) ∧
      ∀ cursors : List ℕ, byteSize text ≤ cursors.length →
        (cursors.take (byteSize text)).foldl d.deleteAt text = [] ∧
          cursors.foldl d.deleteAt text = [] := by
  refine ⟨byteSize_deleteAt_lt h, fun cursors hlen => ⟨foldl_deleteAt_eq_nil ?_,
    foldl_deleteAt_eq_nil hlen⟩⟩
  rw [List.length_take]
  exact le_min le_rfl hlen

/-- An empty note behind delimiters that overlap. -/
theorem deleteAt_progress_overlapping :
    let d : Delimiter := ⟨"aa".toList, by decide⟩
    let text := "aaaa".toList
    text ≠ [] ∧ d.noteAt text 4 = [] ∧ byteSize (d.deleteAt text 4) < byteSize text ∧
      [4, 2, 0, 1, 1].foldl d.deleteAt text = [] := by
  intro d text
  have hne : text ≠ [] := by decide
  obtain ⟨hshorter, hrun⟩ := d.deleteAt_progress text hne
  exact ⟨hne, by decide, hshorter 4, (hrun [4, 2, 0, 1, 1] (by decide)).2⟩

/-! ## A delimiter left at an end -/

/-- **When a delimiter is left at an end.**  A text that neither begins nor ends with a delimiter is
left with one at its beginning just if its first note is deleted and two delimiters follow that
note, since only one of them is dropped; and with one at its end just if its last note is deleted
and two delimiters stand before that note. -/
theorem deleteAt_ends_iff (d : Delimiter) (text : List Char) (cursor : ℕ)
    (hpre : ¬ d.chars <+: text) (hsuf : ¬ d.chars <:+ text) :
    ∃ e : d.Enclosed text (d.span text cursor),
      (d.chars <+: d.deleteAt text cursor ↔ e.before = [] ∧ d.chars ++ d.chars <+: e.behind) ∧
        (d.chars <:+ d.deleteAt text cursor ↔ e.behind = [] ∧ d.chars ++ d.chars <:+ e.before) := by
  obtain ⟨e, -⟩ := d.exists_enclosed text cursor
  have hbehind : e.behind <:+ text := ⟨e.before ++ e.note, e.text_eq.symm⟩
  have hbefore : e.before <+: text :=
    (List.prefix_append _ e.note).trans ⟨e.behind, e.text_eq.symm⟩
  refine ⟨e, ?_⟩
  rw [e.deleteAt_eq_dropEnds]
  exact dropEnds_joined_ends_iff d.chars_ne_nil e.opened e.closed
    (fun h => hpre (h.trans hbefore)) (fun h => hsuf (h.trans hbehind))

/-- The empty note between two others leaves no delimiter at an end. -/
theorem deleteAt_ends_between :
    let d := Delimiter.default
    let text := "a)))---(((\n)))---(((\nb".toList
    ¬ d.chars <+: text ∧ ¬ d.chars <:+ text ∧ d.noteAt text 11 = [] ∧
      ¬ d.chars <+: d.deleteAt text 11 ∧ ¬ d.chars <:+ d.deleteAt text 11 := by
  intro d text
  have hpre : ¬ d.chars <+: text := by decide
  have hsuf : ¬ d.chars <:+ text := by decide
  have hspan : d.span text 11 = ⟨11, 11⟩ := by decide +kernel
  have hnote : d.noteAt text 11 = [] := by decide +kernel
  have hsize : byteSize text = 22 := by decide
  clear_value text
  obtain ⟨e, hbegin, hend⟩ := d.deleteAt_ends_iff text 11 hpre hsuf
  refine ⟨hpre, hsuf, hnote, fun h => ?_, fun h => ?_⟩
  · have hleft : 11 = byteSize e.before := (congrArg Span.left hspan).symm.trans e.left_eq
    rw [(hbegin.mp h).1] at hleft
    exact absurd hleft (by decide)
  · have hright : 11 = byteSize (e.before ++ e.note) :=
      (congrArg Span.right hspan).symm.trans e.right_eq
    have htext := e.text_eq
    rw [(hend.mp h).1, List.append_nil] at htext
    rw [← htext, hsize] at hright
    exact absurd hright (by decide)

/-- The first of three notes, before an empty one: one of the two delimiters behind it is left. -/
theorem deleteAt_leaves_orphan :
    let d := Delimiter.default
    let text := "a)))---(((\n)))---(((\nb".toList
    ¬ d.chars <+: text ∧ ¬ d.chars <:+ text ∧
      d.deleteAt text 0 = ")))---(((\nb".toList ∧ d.chars <+: d.deleteAt text 0 := by
  decide +kernel

end Delimiter

end Scratchpad.Note
