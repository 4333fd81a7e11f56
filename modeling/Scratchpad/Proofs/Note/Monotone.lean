import Scratchpad.Proofs.Note.Bounds

/-!
# The note at a later cursor

A cursor moves down twice before the search for its note begins: to a character boundary, and from
inside of a delimiter to where the delimiter begins.  Of two delimiters that overlap, a later cursor
can lie in the second one alone.  For all that, neither end of the note goes back when the cursor
goes forward.

* `snap_mono` — the search for a later cursor does not begin earlier.
* `leftIndex_zero`, `rightIndex_byteSize` — the notes at the two ends of the text.
* **`span_mono`** — neither end of the note at a later cursor lies earlier.
-/

namespace Scratchpad.Note.Delimiter

open Text

variable (d : Delimiter) (text : List Char)

lemma snap_le (cursor : ℕ) : d.snap text cursor ≤ floorOffset cursor text := by
  rcases d.snap_spec text cursor with ⟨u, v, -, hsnap, hlt, -⟩ | ⟨hsnap, -⟩
  · exact hsnap ▸ hlt.le
  · exact hsnap.le

/-- **The search for a later cursor does not begin earlier.** -/
lemma snap_mono : Monotone (d.snap text) := by
  intro c c' h
  have hfloor : floorOffset c text ≤ floorOffset c' text := floorOffset_mono text h
  rcases d.snap_spec text c' with ⟨u, v, hoccur, hsnap, -, hgt, -⟩ | ⟨hsnap, -⟩
  · rw [hsnap]
    rcases le_or_gt (floorOffset c text) (byteSize u) with hbefore | hinside
    · exact (d.snap_le text c).trans hbefore
    · -- the delimiter around the later cursor is one of those around the earlier cursor
      rcases d.snap_spec text c with ⟨u₀, v₀, -, hsnap₀, -, -, hleftmost⟩ | ⟨-, hnone⟩
      · exact hsnap₀ ▸ hleftmost u v hoccur (hfloor.trans_lt hgt)
      · have := hnone u v hoccur hinside
        omega
  · exact (d.snap_le text c).trans (hfloor.trans hsnap.ge)

lemma leftIndex_le_snap (cursor : ℕ) : d.leftIndex text cursor ≤ d.snap text cursor := by
  obtain ⟨a, b, htext, hsnap, -⟩ := d.exists_snap_cut text cursor
  obtain ⟨l, x, rfl, hleft, -⟩ := exists_leftIndex_eq htext hsnap
  rw [hleft, hsnap]
  exact byteSize_mono (List.prefix_append l x)

lemma snap_le_rightIndex (cursor : ℕ) : d.snap text cursor ≤ d.rightIndex text cursor :=
  Nat.le_add_right _ _

/-- At the beginning of the text the note begins with the text, -/
lemma leftIndex_zero : d.leftIndex text 0 = 0 := by
  obtain ⟨e, hbegins, -⟩ := d.exists_enclosed text 0
  have hfloor := floorOffset_le 0 text
  have hleft : d.leftIndex text 0 = byteSize e.before := e.left_eq
  omega

/-- and at the end of the text it ends with the text. -/
lemma rightIndex_byteSize : d.rightIndex text (byteSize text) = byteSize text := by
  obtain ⟨e, -, hends⟩ := d.exists_enclosed text (byteSize text)
  have hright : d.rightIndex text (byteSize text) = byteSize (e.before ++ e.note) := e.right_eq
  have hle : d.rightIndex text (byteSize text) ≤ byteSize text := e.right_le
  have hfloor : byteSize text ≤ floorOffset (byteSize text) text := by
    have := byteSize_le_floorOffset (a := text) (b := []) le_rfl
    rwa [List.append_nil] at this
  rcases hends with hcursor | ⟨v, hv, -, hinside⟩
  · omega
  · -- no cursor at the end of the text lies inside of a delimiter
    have hdelimiter : e.before ++ e.note ++ d.chars <+: text := by
      refine ⟨v, Eq.trans ?_ e.text_eq.symm⟩
      rw [hv, List.append_assoc]
    have := byteSize_mono hdelimiter
    omega

/-- **Neither end of the note goes back when the cursor goes forward**, for any delimiter, also one
that can overlap itself: a cursor further on never selects an earlier note.  On its way from one end
of the text to the other the cursor comes from the first note to the last. -/
theorem span_mono : Monotone (d.leftIndex text) ∧ Monotone (d.rightIndex text) ∧
    d.leftIndex text 0 = 0 ∧ d.rightIndex text (byteSize text) = byteSize text := by
  refine ⟨?_, ?_, d.leftIndex_zero text, d.rightIndex_byteSize text⟩
  · intro c c' h
    -- the note at the earlier cursor begins behind a delimiter that the later cursor is behind, too
    obtain ⟨e, -⟩ := d.exists_enclosed text c
    have hleft : d.leftIndex text c = byteSize e.before := e.left_eq
    have hsnap := (d.leftIndex_le_snap text c).trans (d.snap_mono text h)
    have htext : text = e.before ++ (e.note ++ e.behind) := by
      rw [← List.append_assoc]
      exact e.text_eq
    rw [hleft] at hsnap ⊢
    exact le_leftIndex htext e.opened hsnap
  · intro c c' h
    obtain ⟨e, -⟩ := d.exists_enclosed text c'
    have hright : d.rightIndex text c' = byteSize (e.before ++ e.note) := e.right_eq
    have hsnap := (d.snap_mono text h).trans (d.snap_le_rightIndex text c')
    rw [hright] at hsnap ⊢
    exact rightIndex_le e.text_eq e.closed hsnap

/-- The spans of two delimiters that overlap, from one end of the text to behind the other. -/
example : (List.range 5).map ((Delimiter.mk ['a', 'a'] (by decide)).span "aaa".toList) =
    [⟨0, 0⟩, ⟨0, 0⟩, ⟨0, 1⟩, ⟨3, 3⟩, ⟨3, 3⟩] := by decide

end Scratchpad.Note.Delimiter
