import Scratchpad.Proofs.Text.Offset

/-!
# Cursors counted in UTF-16

An editor counts the code units in front of its cursor, one or two for each character, where the
text counts bytes.  The byte offset of a cursor is the last character boundary with no more units in
front of it than the cursor has.

* `utf16` — the code units of a text, with a surrogate pair for a character beyond the basic plane.
* `exists_byteOfUtf16`, `byteSize_le_byteOfUtf16` — a boundary that the cursor has come to, and that
  there is none behind it.
* `byteOfUtf16_length_utf16` — a cursor on a boundary stays there.
* **`isGreatest_byteOfUtf16`** — all of this for one text.
-/

namespace Scratchpad.Text

/-! ## Code units -/

/-- The code units of a character: its number, or beyond the basic plane a surrogate pair with ten
bits of the number in each half. -/
def codeUnits (c : Char) : List UInt16 :=
  if c.toNat < 0x10000 then [.ofNat c.toNat]
  else
    let n := c.toNat - 0x10000
    [.ofNat (0xD800 + n / 0x400), .ofNat (0xDC00 + n % 0x400)]

/-- The text in UTF-16. -/
def utf16 (text : List Char) : List UInt16 := text.flatMap codeUnits

lemma length_codeUnits (c : Char) : (codeUnits c).length = utf16Units c := by
  unfold codeUnits utf16Units
  split <;> rfl

lemma utf16Units_pos (c : Char) : 0 < utf16Units c := by
  unfold utf16Units
  split <;> decide

@[simp]
lemma length_utf16_cons (c : Char) (cs : List Char) :
    (utf16 (c :: cs)).length = utf16Units c + (utf16 cs).length := by
  rw [utf16, List.flatMap_cons, List.length_append, length_codeUnits, utf16]

/-! ## The boundary that belongs to a cursor -/

/-- The byte offset of a cursor is a boundary that the cursor has come to. -/
lemma exists_byteOfUtf16 (u : ℕ) (text : List Char) :
    ∃ before, before <+: text ∧ byteSize before = byteOfUtf16 u text ∧
      (utf16 before).length ≤ u := by
  induction text generalizing u with
  | nil => exact ⟨[], List.prefix_rfl, rfl, Nat.zero_le u⟩
  | cons c cs ih =>
      rw [byteOfUtf16]
      split
      · next hfits =>
        obtain ⟨before, hpre, hsize, hunits⟩ := ih (u - utf16Units c)
        refine ⟨c :: before, List.cons_prefix_cons.mpr ⟨rfl, hpre⟩, ?_, ?_⟩
        · rw [byteSize, hsize]
        · rw [length_utf16_cons]
          omega
      · exact ⟨[], List.nil_prefix, rfl, Nat.zero_le u⟩

/-- No boundary behind it has as few units in front of it. -/
lemma byteSize_le_byteOfUtf16 {before text : List Char} {u : ℕ} (h : before <+: text)
    (hunits : (utf16 before).length ≤ u) : byteSize before ≤ byteOfUtf16 u text := by
  obtain ⟨behind, rfl⟩ := h
  induction before generalizing u with
  | nil => exact Nat.zero_le _
  | cons c cs ih =>
      rw [length_utf16_cons] at hunits
      have := ih (u := u - utf16Units c) (by omega)
      rw [List.cons_append, byteOfUtf16, if_pos (by omega), byteSize]
      omega

/-- A cursor on a boundary stays there. -/
lemma byteOfUtf16_length_utf16 (before behind : List Char) :
    byteOfUtf16 (utf16 before).length (before ++ behind) = byteSize before := by
  induction before with
  | nil =>
      cases behind with
      | nil => rfl
      | cons c cs => exact if_neg (Nat.not_le.mpr (utf16Units_pos c))
  | cons c cs ih =>
      rw [length_utf16_cons, List.cons_append, byteOfUtf16, if_pos (Nat.le_add_right _ _),
        Nat.add_sub_cancel_left, ih, byteSize]

/-- **The byte offset of a cursor that is counted in UTF-16** is the greatest character boundary
with no more code units in front of it than the cursor has.  So a cursor inside of a surrogate pair
goes down to where the pair begins.  A cursor further on has no smaller offset; it has come to the
end of the text exactly if it has at least as many units as the text; and the cursor with as many
units as there are in front of a boundary is that boundary. -/
theorem isGreatest_byteOfUtf16 (text : List Char) :
    (∀ u, IsGreatest {b | ∃ before, before <+: text ∧ byteSize before = b ∧
        (utf16 before).length ≤ u} (byteOfUtf16 u text)) ∧
      Monotone (byteOfUtf16 · text) ∧
      (∀ u, byteOfUtf16 u text = byteSize text ↔ (utf16 text).length ≤ u) ∧
      ∀ before, before <+: text → byteOfUtf16 (utf16 before).length text = byteSize before := by
  have hgreatest : ∀ u, IsGreatest {b | ∃ before, before <+: text ∧ byteSize before = b ∧
      (utf16 before).length ≤ u} (byteOfUtf16 u text) := by
    refine fun u => ⟨exists_byteOfUtf16 u text, ?_⟩
    rintro _ ⟨before, hpre, rfl, hunits⟩
    exact byteSize_le_byteOfUtf16 hpre hunits
  refine ⟨hgreatest, ?_, fun u => ⟨fun hend => ?_, fun hunits => ?_⟩, ?_⟩
  · intro u v huv
    refine (hgreatest u).mono (hgreatest v) ?_
    rintro _ ⟨before, hpre, rfl, hunits⟩
    exact ⟨before, hpre, rfl, hunits.trans huv⟩
  · -- a boundary as far on as the end of the text is the end of the text
    obtain ⟨before, ⟨behind, rfl⟩, hsize, hunits⟩ := exists_byteOfUtf16 u text
    rw [← hsize, byteSize_append] at hend
    have hnil : behind = [] := by
      by_contra hne
      have := byteSize_pos hne
      omega
    rwa [hnil, List.append_nil]
  · refine le_antisymm ?_ (byteSize_le_byteOfUtf16 List.prefix_rfl hunits)
    obtain ⟨before, hpre, hsize, -⟩ := exists_byteOfUtf16 u text
    exact hsize ▸ byteSize_mono hpre
  · rintro before ⟨behind, rfl⟩
    exact byteOfUtf16_length_utf16 before behind

/-- Characters of one, two and four bytes, with a cursor inside of the surrogate pair, one behind it
and one past the end. -/
theorem isGreatest_byteOfUtf16_surrogates :
    let text := "aä😀b".toList
    "aä😀".toList <+: text ∧ utf16 "😀".toList = [0xD83D, 0xDE00] ∧
      byteOfUtf16 (utf16 "aä😀".toList).length text = byteSize "aä😀".toList ∧
      byteOfUtf16 3 text = 3 ∧ byteOfUtf16 4 text = 7 ∧ byteOfUtf16 99 text = byteSize text := by
  intro text
  have hpre : "aä😀".toList <+: text := by decide
  obtain ⟨-, -, hend, hboundary⟩ := isGreatest_byteOfUtf16 text
  exact ⟨hpre, by decide, hboundary _ hpre, by decide, by decide,
    (hend 99).mpr (by decide)⟩

end Scratchpad.Text
