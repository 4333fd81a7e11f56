import Scratchpad.Proofs.Note.Bounds
import Scratchpad.Proofs.Note.Place

/-!
# What is left when a note is cut out

The gap between the notes before and behind a deleted note is closed in three steps: two delimiters
that meet become one, and then one delimiter is dropped at either end of the text.  In terms of the
notes, the first step joins the two sides, and the others drop an empty note.

* `closeGap_eq` — the three steps in terms of the notes.
* `exists_closeGap_eq` — no note is lost or changed but empty ones at the ends.
* `closeGap_eq_intercalate` — and not even these, unless the text began or ended with a delimiter.
* `cutAt_spec` — the note at the cursor and the text without it.
-/

namespace Scratchpad.Note

open Text

namespace Delimiter

variable (d : Delimiter)

/-- The notes on both sides of the gap once they are joined: at an end of the text the gap itself
counts as an empty note. -/
def joinSides (A B : List (List Char)) : List (List Char) :=
  if A ≠ [] ∧ B ≠ [] then A ++ B else A ++ [] :: B

variable {d} {A B : List (List Char)}

lemma suffix_opening_iff : d.chars <:+ d.opening A ↔ A ≠ [] := by
  constructor
  · rintro h rfl
    exact d.chars_ne_nil (List.suffix_nil.mp h)
  · intro h
    rw [d.opening_eq h]
    exact List.suffix_append _ _

lemma prefix_closing_iff : d.chars <+: d.closing B ↔ B ≠ [] := by
  constructor
  · rintro h rfl
    exact d.chars_ne_nil (List.prefix_nil.mp h)
  · intro h
    rw [d.closing_eq h]
    exact List.prefix_append _ _

/-- The two sides, with one of the delimiters that meet between them dropped. -/
lemma opening_append_closing (A B : List (List Char)) :
    d.opening A ++ (if d.chars.isSuffixOf (d.opening A) && d.chars.isPrefixOf (d.closing B) then
        (d.closing B).drop d.chars.length else d.closing B)
      = d.chars.intercalate (joinSides A B) := by
  simp only [Bool.and_eq_true, List.isSuffixOf_iff_suffix, List.isPrefixOf_iff_prefix,
    suffix_opening_iff, prefix_closing_iff, joinSides]
  split
  · next h =>
    rw [d.closing_eq h.2, List.drop_left, intercalate_append A h.1 h.2, d.opening_eq h.1]
  · rw [d.intercalate_eq, List.append_nil]

lemma joinSides_ne_nil : joinSides A B ≠ [] := by
  unfold joinSides
  split
  · next h => simp [h.1]
  · simp

lemma filter_joinSides : (joinSides A B).filter (· ≠ []) = (A ++ B).filter (· ≠ []) := by
  unfold joinSides
  split <;> simp

lemma free_nil_cons (hB : Free d.chars B) : Free d.chars ([] :: B) := by
  rintro n (_ | ⟨_, hn⟩)
  · simpa using d.chars_ne_nil
  · exact hB n hn

section Unbordered

variable (hd : Unbordered d.chars) (hA : Free d.chars A) (hB : Free d.chars B)

include hA hB

lemma free_append : Free d.chars (A ++ B) := fun n hn => (List.mem_append.mp hn).elim (hA n) (hB n)

lemma free_joinSides : Free d.chars (joinSides A B) := by
  unfold joinSides
  split
  · exact free_append hA hB
  · exact free_append hA (free_nil_cons hB)

include hd

/-- **Closing the gap, in terms of the notes.** -/
theorem closeGap_eq : closeGap d.chars (d.opening A) (d.closing B) =
    if A ++ [] :: B = [[], [], []] then []
    else dropClosing d.chars (dropOpening d.chars (d.chars.intercalate (joinSides A B))) := by
  have hall : d.opening A ++ d.closing B = d.chars.intercalate (A ++ [] :: B) := by
    rw [d.intercalate_eq, List.append_nil]
  have htwo : d.chars ++ d.chars = d.chars.intercalate [[], [], []] := by
    simp
  have hfree : Free d.chars (A ++ [] :: B) := free_append hA (free_nil_cons hB)
  have hiff : d.opening A ++ d.closing B = d.chars ++ d.chars ↔ A ++ [] :: B = [[], [], []] := by
    rw [hall, htwo]
    refine ⟨intercalate_injective d.chars_ne_nil hd (by simp) (by simp) hfree ?_,
      fun h => by rw [h]⟩
    simpa [Free] using d.chars_ne_nil
  rw [closeGap, if_neg (by simpa using d.chars_ne_nil)]
  simp only [hiff, opening_append_closing]

omit hB in
/-- Dropping a delimiter at the beginning drops at most an empty note. -/
lemma exists_dropOpening_eq (hne : A ≠ []) :
    ∃ L, L ≠ [] ∧ Free d.chars L ∧
      dropOpening d.chars (d.chars.intercalate A) = d.chars.intercalate L ∧
      L.filter (· ≠ []) = A.filter (· ≠ []) := by
  by_cases hpre : d.chars <+: d.chars.intercalate A
  · obtain ⟨M, hM, rfl⟩ := (prefix_intercalate_iff d.chars_ne_nil hd hne hA).mp hpre
    exact ⟨M, hM, fun n hn => hA n (List.mem_cons_of_mem _ hn), dropOpening_intercalate hM, by simp⟩
  · exact ⟨A, hne, hA, dropOpening_of_not_prefix hpre, rfl⟩

omit hB in
/-- Dropping a delimiter at the end drops at most an empty note. -/
lemma exists_dropClosing_eq (hne : A ≠ []) :
    ∃ L, L ≠ [] ∧ Free d.chars L ∧
      dropClosing d.chars (d.chars.intercalate A) = d.chars.intercalate L ∧
      L.filter (· ≠ []) = A.filter (· ≠ []) := by
  by_cases hsuf : d.chars <:+ d.chars.intercalate A
  · obtain ⟨M, hM, rfl⟩ := (suffix_intercalate_iff d.chars_ne_nil hd hne hA).mp hsuf
    exact ⟨M, hM, fun n hn => hA n (List.mem_append_left _ hn), dropClosing_intercalate hM, by simp⟩
  · exact ⟨A, hne, hA, dropClosing_of_not_suffix hsuf, rfl⟩

/-- **No note is lost or changed by closing the gap**, but empty ones. -/
theorem exists_closeGap_eq :
    ∃ L, L ≠ [] ∧ Free d.chars L ∧
      closeGap d.chars (d.opening A) (d.closing B) = d.chars.intercalate L ∧
      L.filter (· ≠ []) = (A ++ B).filter (· ≠ []) := by
  rw [closeGap_eq hd hA hB]
  split
  · next h =>
    refine ⟨[[]], by simp, by simpa [Free] using d.chars_ne_nil, by simp, ?_⟩
    have hfilter := congrArg (List.filter (· ≠ [])) h
    simpa using hfilter.symm
  · obtain ⟨L, hL, hLfree, hopen, hLfilter⟩ :=
      exists_dropOpening_eq hd (free_joinSides hA hB) joinSides_ne_nil
    obtain ⟨M, hM, hMfree, hclose, hMfilter⟩ := exists_dropClosing_eq hd hLfree hL
    exact ⟨M, hM, hMfree, by rw [hopen, hclose], by rw [hMfilter, hLfilter, filter_joinSides]⟩

omit hB in
lemma dropOpening_eq_self (hfirst : A.head? ≠ some []) :
    dropOpening d.chars (d.chars.intercalate A) = d.chars.intercalate A := by
  by_cases hne : A = []
  · rw [hne, List.intercalate_nil, dropOpening_of_not_prefix (by simpa using d.chars_ne_nil)]
  · refine dropOpening_of_not_prefix fun hpre => ?_
    obtain ⟨M, -, rfl⟩ := (prefix_intercalate_iff d.chars_ne_nil hd hne hA).mp hpre
    exact hfirst rfl

omit hB in
lemma dropClosing_eq_self (hlast : A.getLast? ≠ some []) :
    dropClosing d.chars (d.chars.intercalate A) = d.chars.intercalate A := by
  by_cases hne : A = []
  · rw [hne, List.intercalate_nil, dropClosing_of_not_suffix (by simpa using d.chars_ne_nil)]
  · refine dropClosing_of_not_suffix fun hsuf => ?_
    obtain ⟨M, -, rfl⟩ := (suffix_intercalate_iff d.chars_ne_nil hd hne hA).mp hsuf
    exact hlast (by simp)

/-- **The other notes are joined as they are**, if there is no empty note at an end of the text. -/
theorem closeGap_eq_intercalate (hfirst : A.head? ≠ some []) (hlast : B.getLast? ≠ some []) :
    closeGap d.chars (d.opening A) (d.closing B) = d.chars.intercalate (A ++ B) := by
  have hnot : A ++ [] :: B ≠ [[], [], []] := by
    intro h
    cases A with
    | nil =>
        rw [(List.cons.inj h).2] at hlast
        exact hlast rfl
    | cons a A =>
        rw [(List.cons.inj h).1] at hfirst
        exact hfirst rfl
  rw [closeGap_eq hd hA hB, if_neg hnot]
  by_cases hAnil : A = [] <;> by_cases hBnil : B = []
  · subst hAnil hBnil
    rw [show joinSides [] [] = [[]] by simp [joinSides], List.intercalate_singleton,
      dropOpening_of_not_prefix (by simpa using d.chars_ne_nil),
      dropClosing_of_not_suffix (by simpa using d.chars_ne_nil)]
    rfl
  · subst hAnil
    rw [show joinSides [] B = [] :: B by simp [joinSides], dropOpening_intercalate hBnil,
      dropClosing_eq_self hd hB hlast]
    rfl
  · subst hBnil
    have hgap : joinSides A [] = A ++ [[]] := by simp [joinSides]
    have hfirst' : (A ++ [[]]).head? ≠ some [] := by rwa [List.head?_append_of_ne_nil _ hAnil]
    rw [hgap, dropOpening_eq_self hd (hgap ▸ free_joinSides hA hB) hfirst',
      dropClosing_intercalate hAnil, List.append_nil]
  · have hboth : joinSides A B = A ++ B := by simp [joinSides, hAnil, hBnil]
    have hfirst' : (A ++ B).head? ≠ some [] := by rwa [List.head?_append_of_ne_nil _ hAnil]
    have hlast' : (A ++ B).getLast? ≠ some [] := by rwa [List.getLast?_append_of_ne_nil _ hBnil]
    rw [hboth, dropOpening_eq_self hd (free_append hA hB) hfirst',
      dropClosing_eq_self hd (free_append hA hB) hlast']

end Unbordered

namespace Place

variable {text : List Char} (p : d.Place text)

lemma free_notes (d : Delimiter) (text : List Char) : Free d.chars (d.notes text) :=
  fun _ hn => not_infix_of_mem_splitOn d.chars_ne_nil hn

lemma free_before : Free d.chars p.before := fun n hn =>
  free_notes d text n (p.notes_eq ▸ List.mem_append_left _ hn)

lemma free_behind : Free d.chars p.behind := fun n hn =>
  free_notes d text n (p.notes_eq ▸ List.mem_append_right _ (List.mem_cons_of_mem _ hn))

/-- A text that does not begin with a delimiter has no empty note before another one at its
beginning, -/
lemma head?_before_ne (hpre : ¬ d.chars <+: text) : p.before.head? ≠ some [] := by
  intro h
  obtain ⟨A, hA⟩ := List.head?_eq_some_iff.mp h
  refine hpre ⟨d.opening A ++ p.note ++ d.closing p.behind, Eq.trans ?_ p.text_eq.symm⟩
  rw [hA]
  simp [opening]

/-- and one that does not end with it none behind another one at its end. -/
lemma getLast?_behind_ne (hsuf : ¬ d.chars <:+ text) : p.behind.getLast? ≠ some [] := by
  intro h
  obtain ⟨B, hB⟩ := List.getLast?_eq_some_iff.mp h
  refine hsuf ⟨d.opening p.before ++ p.note ++ d.closing B, Eq.trans ?_ p.text_eq.symm⟩
  rw [hB]
  simp [closing]

/-! ### The number of the note -/

lemma length_notes : (d.notes text).length = p.before.length + (p.behind.length + 1) := by
  simp [p.notes_eq]

lemma eraseIdx_notes : (d.notes text).eraseIdx p.before.length = p.before ++ p.behind := by
  simp [p.notes_eq, List.eraseIdx_append]

lemma noteStart_eq : d.noteStart text p.before.length = byteSize (d.opening p.before) := by
  simp [noteStart, p.notes_eq]

/-- Every later note begins behind the note and the delimiter after it. -/
lemma le_noteStart {j : ℕ} (h : p.before.length < j) :
    byteSize (d.opening p.before ++ p.note ++ d.chars) ≤ d.noteStart text j := by
  obtain ⟨k, rfl⟩ : ∃ k, j = p.before.length + (k + 1) := ⟨j - p.before.length - 1, by omega⟩
  refine byteSize_mono ⟨d.opening (p.behind.take k), ?_⟩
  rw [p.notes_eq, List.take_length_add_append, List.take_succ_cons, opening_append,
    ← List.singleton_append, opening_append, opening_singleton]
  simp

lemma Covers.begins_noteStart {p : d.Place text} {cursor : ℕ} (h : p.Covers cursor) :
    d.noteStart text p.before.length ≤ floorOffset cursor text := by
  rw [p.noteStart_eq]
  exact h.begins

lemma Covers.lt_noteStart {p : d.Place text} {cursor : ℕ} (h : p.Covers cursor) {j : ℕ}
    (hj : p.before.length < j) (hlt : j < (d.notes text).length) :
    floorOffset cursor text < d.noteStart text j := by
  refine lt_of_lt_of_le (h.next fun hnil => ?_) (p.le_noteStart hj)
  rw [p.length_notes, hnil, List.length_nil] at hlt
  omega

/-- To delete the note closes the gap between what stands before and behind it. -/
theorem Covers.deleteAt_eq {p : d.Place text} {cursor : ℕ} (hd : Unbordered d.chars)
    (h : p.Covers cursor) :
    d.deleteAt text cursor = closeGap d.chars (d.opening p.before) (d.closing p.behind) := by
  rw [deleteAt, h.span_eq hd]
  exact deleteRange_byteSize p.text_eq d.chars

end Place

/-- **Cutting a note loses nothing else.**  The delimiter must not overlap itself, and the default
one does not.  The note is the last one that begins at or before the cursor; all other notes that
hold anything stay as they are, and so do the empty ones if the text neither begins nor ends with a
delimiter. -/
theorem cutAt_spec : Unbordered Delimiter.default.chars ∧
    ∀ d : Delimiter, Unbordered d.chars → ∀ (text : List Char) (cursor : ℕ),
      ∃ i, ∃ hi : i < (d.notes text).length,
        d.noteStart text i ≤ floorOffset cursor text ∧
        (∀ j, i < j → j < (d.notes text).length → floorOffset cursor text < d.noteStart text j) ∧
        (d.cutAt text cursor).note = (d.notes text)[i] ∧
        (d.notes (d.cutAt text cursor).remaining).filter (· ≠ []) =
          ((d.notes text).eraseIdx i).filter (· ≠ []) ∧
        (¬ d.chars <+: text → ¬ d.chars <:+ text →
          (d.cutAt text cursor).remaining = d.chars.intercalate ((d.notes text).eraseIdx i) ∧
          (2 ≤ (d.notes text).length →
            d.notes (d.cutAt text cursor).remaining = (d.notes text).eraseIdx i) ∧
          ((d.notes text).length = 1 → (d.cutAt text cursor).remaining = [])) := by
  refine ⟨by decide, fun d hd text cursor => ?_⟩
  obtain ⟨p, hp⟩ := d.exists_covers text cursor
  have hlen := p.length_notes
  refine ⟨p.before.length, by omega, hp.begins_noteStart, fun j hj hlt => hp.lt_noteStart hj hlt,
    ?_, ?_, fun hpre hsuf => ?_⟩
  · rw [cutAt, hp.noteAt_eq hd]
    simp [p.notes_eq]
  · obtain ⟨L, hL, hfree, hclose, hfilter⟩ := exists_closeGap_eq hd p.free_before p.free_behind
    have hnotes : d.notes (d.chars.intercalate L) = L :=
      splitOn_intercalate d.chars_ne_nil hd hL hfree
    rw [cutAt, hp.deleteAt_eq hd, hclose, hnotes, hfilter, p.eraseIdx_notes]
  · have hremaining :
        (d.cutAt text cursor).remaining = d.chars.intercalate (p.before ++ p.behind) := by
      rw [cutAt, hp.deleteAt_eq hd]
      exact closeGap_eq_intercalate hd p.free_before p.free_behind (p.head?_before_ne hpre)
        (p.getLast?_behind_ne hsuf)
    rw [p.eraseIdx_notes]
    refine ⟨hremaining, fun htwo => ?_, fun hone => ?_⟩
    · rw [hremaining]
      refine splitOn_intercalate d.chars_ne_nil hd (fun hnil => ?_)
        (free_append p.free_before p.free_behind)
      have := congrArg List.length hnil
      simp only [List.length_append, List.length_nil] at this
      omega
    · have hbefore : p.before = [] := List.length_eq_zero_iff.mp (by omega)
      have hbehind : p.behind = [] := List.length_eq_zero_iff.mp (by omega)
      rw [hremaining, hbefore, hbehind]
      rfl

/-- An empty note between two others, with the cursor in the delimiter behind it. -/
theorem cutAt_empty_note :
    let text := "(((\n)))---(((\n)))---(((\nä)))".toList
    Unbordered Delimiter.default.chars ∧ ¬ Delimiter.default.chars <+: text ∧
      ¬ Delimiter.default.chars <:+ text ∧ 2 ≤ (Delimiter.default.notes text).length ∧
      (Delimiter.default.cutAt text 20).note = [] ∧
      (Delimiter.default.cutAt text 20).remaining = "(((\n)))---(((\nä)))".toList := by
  intro text
  have hpre : ¬ Delimiter.default.chars <+: text := by decide
  have hsuf : ¬ Delimiter.default.chars <:+ text := by decide
  have hnotes : Delimiter.default.notes text = ["(((\n".toList, [], "ä)))".toList] := by
    decide +kernel
  have hone : Delimiter.default.noteStart text 1 ≤ floorOffset 20 text := by decide +kernel
  have htwo : floorOffset 20 text < Delimiter.default.noteStart text 2 := by decide +kernel
  clear_value text
  obtain ⟨i, hi, hbegins, hlast, hnote, -, hjoined⟩ :=
    cutAt_spec.2 Delimiter.default cutAt_spec.1 text 20
  have hlen : (Delimiter.default.notes text).length = 3 := by rw [hnotes]; rfl
  obtain rfl : i = 1 := by
    have hne0 : i ≠ 0 := fun h => by
      have := hlast 1 (by omega) (by omega)
      omega
    have hne2 : i ≠ 2 := fun h => by
      rw [h] at hbegins
      omega
    omega
  have hremaining := (hjoined hpre hsuf).1
  simp only [hnotes] at hnote hremaining
  exact ⟨cutAt_spec.1, hpre, hsuf, by omega, hnote, hremaining.trans (by decide)⟩

end Delimiter

end Scratchpad.Note
