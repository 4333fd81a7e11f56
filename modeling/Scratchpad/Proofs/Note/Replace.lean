import Scratchpad.Note.Replace
import Scratchpad.Proofs.Note.Bounds
import Scratchpad.Proofs.Note.Cut

/-!
# Replacing inside one note leaves the others alone

What is written into a note can hold the delimiter, and it can begin or end with parts of it.  The
text is split again by every later operation, so it has to be shown that no delimiter comes about
where the new text meets the old one.

* `notes_opening_append`, `notes_append_closing` — the notes on both sides of any text.
* `Place.Covers.enclosed` — the note that a cursor belongs to, as the part of the text that its span
  marks.
* `Place.Covers.notes_replaceNoteAt` — the notes of the text with something else in the place of
  the note at the cursor.
* **`applyInNote_spec`** — rules that are run on one note change only this note.
-/

namespace Scratchpad.Note.Delimiter

open Text

variable {d : Delimiter} {A B : List (List Char)}

section

variable (hd : Unbordered d.chars)

include hd

/-- The notes before any text stay as they are, -/
lemma notes_opening_append (hA : Free d.chars A) (rest : List Char) :
    d.notes (d.opening A ++ rest) = A ++ d.notes rest := by
  induction A with
  | nil => rfl
  | cons n A ih =>
      have hn : splitOn d.chars n = [n] := splitOn_of_not_infix (hA n List.mem_cons_self)
      have hrest := ih fun m hm => hA m (List.mem_cons_of_mem n hm)
      have hopen : d.opening (n :: A) ++ rest = n ++ d.chars ++ (d.opening A ++ rest) := by
        simp [opening]
      rw [hopen, notes, splitOn_part_between d.chars_ne_nil hd, hn]
      exact congrArg (n :: ·) hrest

/-- and so do the notes behind it. -/
lemma notes_append_closing (hB : Free d.chars B) (new : List Char) :
    d.notes (new ++ d.closing B) = d.notes new ++ B := by
  induction B generalizing new with
  | nil => simp
  | cons n B ih =>
      have hn : d.notes n = [n] := splitOn_of_not_infix (hB n List.mem_cons_self)
      have hrest := ih (fun m hm => hB m (List.mem_cons_of_mem n hm)) n
      have hclose : new ++ d.closing (n :: B) = new ++ d.chars ++ (n ++ d.closing B) := by
        simp
      rw [hclose, notes, splitOn_part_between d.chars_ne_nil hd]
      refine (congrArg (splitOn d.chars new ++ ·) hrest).trans ?_
      rw [hn, List.singleton_append]
      rfl

end

namespace Place.Covers

variable {text : List Char} {cursor : ℕ} {p : d.Place text} (hd : Unbordered d.chars)
  (h : p.Covers cursor)

include hd h

/-- The note that a cursor belongs to is what its span marks. -/
def enclosed : d.Enclosed text (d.span text cursor) where
  before := d.opening p.before
  note := p.note
  behind := d.closing p.behind
  text_eq := p.text_eq
  left_eq := by rw [h.span_eq hd]
  right_eq := by rw [h.span_eq hd]
  free := by
    refine free_notes d text p.note ?_
    simp [p.notes_eq]
  opened := by
    by_cases hA : p.before = []
    · exact .inl (by rw [hA, opening_nil])
    · exact .inr (suffix_opening_iff.mpr hA)
  closed := by
    by_cases hB : p.behind = []
    · exact .inl (by rw [hB, closing_nil])
    · exact .inr (prefix_closing_iff.mpr hB)

/-- **Whatever is written in the place of the note, the other notes stay as they are**, and the
notes of what is written stand between them. -/
theorem notes_replaceNoteAt (new : List Char) :
    d.notes (d.replaceNoteAt text cursor new) = p.before ++ d.notes new ++ p.behind := by
  have hspliced : d.replaceNoteAt text cursor new
      = d.opening p.before ++ (new ++ d.closing p.behind) := by
    rw [← List.append_assoc]
    exact (h.enclosed hd).replaceNoteAt_eq new
  rw [hspliced, notes_opening_append hd p.free_before, notes_append_closing hd p.free_behind,
    List.append_assoc]

end Place.Covers

/-- **Rules that are run on one note change only this note.**  The delimiter must not overlap
itself, and the default one does not.  The note is the last one that begins at or before the cursor.
If the rules fail on it, the whole fails in the same way; else the log is that of the rules, and the
notes of the new text are those of the old one, with the notes of what the rules have written in the
place of the one. -/
theorem applyInNote_spec : Unbordered Delimiter.default.chars ∧
    ∀ d : Delimiter, Unbordered d.chars →
      ∀ (text : List Char) (cursor : ℕ) (ruleText : String) (o : Options),
      ∃ i, ∃ hi : i < (d.notes text).length,
        d.noteStart text i ≤ floorOffset cursor text ∧
        (∀ j, i < j → j < (d.notes text).length → floorOffset cursor text < d.noteStart text j) ∧
        d.noteAt text cursor = (d.notes text)[i] ∧
        match applyRuleFile ruleText (.ofList (d.notes text)[i]) o with
        | .error e => applyInNote d text cursor ruleText o = .error e
        | .ok run => ∃ new, applyInNote d text cursor ruleText o = .ok (new, run.log) ∧
            d.notes new.toList =
              (d.notes text).take i ++ d.notes run.text.toList ++ (d.notes text).drop (i + 1) := by
  refine ⟨by decide, fun d hd text cursor ruleText o => ?_⟩
  obtain ⟨p, hp⟩ := d.exists_covers text cursor
  have hlen := p.length_notes
  have hi : p.before.length < (d.notes text).length := by omega
  have hnote : d.noteAt text cursor = (d.notes text)[p.before.length] := by
    rw [hp.noteAt_eq hd]
    simp [p.notes_eq]
  refine ⟨p.before.length, hi, hp.begins_noteStart, fun j hj hlt => hp.lt_noteStart hj hlt, hnote,
    ?_⟩
  rw [← hnote]
  cases hrun : applyRuleFile ruleText (.ofList (d.noteAt text cursor)) o with
  | error e =>
      simp [applyInNote, hrun, bind, Except.bind]
  | ok run =>
      refine ⟨.ofList (d.replaceNoteAt text cursor run.text.toList), ?_, ?_⟩
      · simp [applyInNote, hrun, bind, Except.bind, pure, Except.pure]
      · rw [String.toList_ofList, hp.notes_replaceNoteAt hd, p.notes_eq]
        simp [List.drop_append]

/-- The replacement holds a delimiter, begins like the end of one and ends like the beginning of
one. -/
theorem applyInNote_writes_delimiter :
    let text := "x)))---(((\ndu)))---(((\ny".toList
    let rule := "\"du\"->\"-(((\na)))---(((\nb)))--\""
    Unbordered Delimiter.default.chars ∧
      ∃ new, applyInNote Delimiter.default text 12 rule ⟨true, false, true⟩
          = .ok (new, [⟨0, 1, rule⟩]) ∧
        Delimiter.default.notes new.toList
          = ["x".toList, "-(((\na".toList, "b)))--".toList, "y".toList] := by
  intro text rule
  have hnotes : Delimiter.default.notes text = ["x".toList, "du".toList, "y".toList] := by
    decide +kernel
  have hnote : Delimiter.default.noteAt text 12 = "du".toList := by decide +kernel
  have hrun : applyRuleFile rule "du" ⟨true, false, true⟩
      = .ok ⟨"-(((\na)))---(((\nb)))--", [⟨0, 1, rule⟩], [⟨0, .asWritten, 1⟩]⟩ := by
    decide +kernel
  have hinner : Delimiter.default.notes "-(((\na)))---(((\nb)))--".toList
      = ["-(((\na".toList, "b)))--".toList] := by
    decide +kernel
  clear_value text rule
  obtain ⟨i, hi, -, -, hat, hdone⟩ :=
    applyInNote_spec.2 Delimiter.default applyInNote_spec.1 text 12 rule ⟨true, false, true⟩
  rw [← hat, hnote, String.ofList_toList, hrun] at hdone
  obtain ⟨new, hnew, hsplit⟩ := hdone
  refine ⟨applyInNote_spec.1, new, hnew, ?_⟩
  have hlen : i < 3 := by rwa [hnotes] at hi
  simp only [hnotes, hnote] at hat hsplit
  obtain rfl : i = 1 := by
    have hne0 : i ≠ 0 := by
      rintro rfl
      exact (by decide : "du".toList ≠ "x".toList) hat
    have hne2 : i ≠ 2 := by
      rintro rfl
      exact (by decide : "du".toList ≠ "y".toList) hat
    omega
  rw [hsplit, hinner]
  rfl

end Scratchpad.Note.Delimiter
