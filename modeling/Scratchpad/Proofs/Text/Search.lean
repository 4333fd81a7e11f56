import Mathlib
import Scratchpad.Text.Search

/-!
# What the searches find

Each search of one text in another is described by the occurrences `text = u ++ part ++ v`, without
reference to the way the search goes.

* `beforeFirst_eq_iff` — the characters before the first occurrence.
* `afterLast?_eq_some_iff`, `afterLast?_eq_none_iff` — the characters behind the last one.
* `dropOpening_part_append`, `dropClosing_append_part` — an occurrence at an end is dropped.
* `occurrence_induction` — a text is read from the left, one occurrence or one character at a time.
* `intercalate_splitOn`, `not_infix_of_mem_splitOn` — a text is its pieces, put together again, and
  no piece holds the separator.
-/

namespace Scratchpad.Text

variable {part : List Char}

/-! ## The first and the last occurrence -/

lemma beforeFirst_cons (c : Char) (cs : List Char) :
    beforeFirst part (c :: cs) = if part <+: c :: cs then [] else c :: beforeFirst part cs := by
  rw [beforeFirst]
  simp only [List.isPrefixOf_iff_prefix]

/-- The characters before the first occurrence are a beginning of the text, behind which there is
an occurrence or nothing, and no occurrence begins in it. -/
lemma beforeFirst_spec (text : List Char) :
    ∃ rest, text = beforeFirst part text ++ rest ∧ (rest = [] ∨ part <+: rest) ∧
      ∀ u v, text = u ++ part ++ v → (beforeFirst part text).length ≤ u.length := by
  induction text with
  | nil => exact ⟨[], rfl, .inl rfl, fun u v _ => Nat.zero_le _⟩
  | cons c cs ih =>
      rw [beforeFirst_cons]
      split
      · next h => exact ⟨c :: cs, rfl, .inr h, fun u v _ => Nat.zero_le _⟩
      · next h =>
        obtain ⟨rest, hcs, hrest, hmin⟩ := ih
        refine ⟨rest, by rw [List.cons_append, ← hcs], hrest, fun u v huv => ?_⟩
        cases u with
        | nil => exact absurd ⟨v, huv.symm⟩ h
        | cons d u =>
            have := hmin u v (List.cons.inj huv).2
            simpa using this

/-- **The characters before the first occurrence** are determined by these properties. -/
theorem beforeFirst_eq_iff {text m : List Char} :
    beforeFirst part text = m ↔ ∃ rest, text = m ++ rest ∧ (rest = [] ∨ part <+: rest) ∧
      ∀ u v, text = u ++ part ++ v → m.length ≤ u.length := by
  constructor
  · rintro rfl
    exact beforeFirst_spec text
  · rintro ⟨rest, htext, hrest, hmin⟩
    obtain ⟨after, htext', hrest', hmin'⟩ : ∃ after, text = beforeFirst part text ++ after ∧ _ :=
      beforeFirst_spec text
    have hlen : (beforeFirst part text).length = m.length := by
      apply le_antisymm
      · rcases hrest with rfl | ⟨v, rfl⟩
        · rw [List.append_nil] at htext
          rw [← htext]
          conv_rhs => rw [htext']
          simp
        · exact hmin' m v (by rw [htext, List.append_assoc])
      · rcases hrest' with rfl | ⟨v, rfl⟩
        · rw [List.append_nil] at htext'
          rw [← htext']
          conv_rhs => rw [htext]
          simp
        · exact hmin _ v (by rw [List.append_assoc, ← htext'])
    exact (List.append_inj (htext'.symm.trans htext) hlen).1

lemma afterLast?_cons (c : Char) (cs : List Char) :
    afterLast? part (c :: cs) = match afterLast? part cs with
      | some rest => some rest
      | none => if part <+: c :: cs then some ((c :: cs).drop part.length) else none := by
  rw [afterLast?]
  cases afterLast? part cs <;> simp only [List.isPrefixOf_iff_prefix]

/-- Nothing is found exactly if there is no occurrence. -/
theorem afterLast?_eq_none_iff (hpart : part ≠ []) {text : List Char} :
    afterLast? part text = none ↔ ¬ part <:+: text := by
  induction text with
  | nil => simp [afterLast?, hpart]
  | cons c cs ih =>
      rw [afterLast?_cons, List.infix_cons_iff, not_or]
      cases hcs : afterLast? part cs with
      | some rest =>
          rw [hcs] at ih
          simp only [reduceCtorEq, false_iff] at ih ⊢
          exact fun h => ih h.2
      | none =>
          rw [hcs] at ih
          simp [ih.mp rfl]

/-- **The characters behind the last occurrence.** -/
theorem afterLast?_eq_some_iff (hpart : part ≠ []) {text rest : List Char} :
    afterLast? part text = some rest ↔ ∃ u, text = u ++ part ++ rest ∧
      ∀ u' v', text = u' ++ part ++ v' → u'.length ≤ u.length := by
  induction text generalizing rest with
  | nil => simp [afterLast?, hpart]
  | cons c cs ih =>
      rw [afterLast?_cons]
      cases hcs : afterLast? part cs with
      | some rest' =>
          obtain ⟨u, hu, hmax⟩ := ih.mp hcs
          have hmax' : ∀ u' v', c :: cs = u' ++ part ++ v' → u'.length ≤ (c :: u).length := by
            intro u' v' h
            cases u' with
            | nil => exact Nat.zero_le _
            | cons d u' => simpa using hmax u' v' (List.cons.inj h).2
          constructor
          · rintro ⟨⟩
            exact ⟨c :: u, by rw [hu]; simp, hmax'⟩
          · rintro ⟨u₂, hu₂, hmax₂⟩
            have hlen : u₂.length = (c :: u).length :=
              le_antisymm (hmax' _ _ hu₂) (hmax₂ (c :: u) rest' (by rw [hu]; simp))
            have heq : c :: u ++ part ++ rest' = u₂ ++ part ++ rest := by rw [← hu₂, hu]; simp
            exact congrArg some (List.append_inj heq (by simp [hlen]; omega)).2
      | none =>
          have hnone := (afterLast?_eq_none_iff hpart).mp hcs
          constructor
          · intro h
            dsimp only at h
            split at h
            · next hpre =>
              obtain ⟨v, hv⟩ := hpre
              rw [← hv, List.drop_left] at h
              cases h
              refine ⟨[], hv.symm, fun u' v' h' => ?_⟩
              cases u' with
              | nil => exact le_rfl
              | cons d u' =>
                  rw [← hv] at h'
                  exact absurd ⟨u', v', (List.cons.inj (hv ▸ h')).2.symm⟩ hnone
            · cases h
          · rintro ⟨u, hu, -⟩
            cases u with
            | nil =>
                have hpre : part <+: c :: cs := ⟨rest, hu.symm⟩
                dsimp only
                rw [if_pos hpre, hu]
                simp
            | cons d u => exact absurd ⟨u, rest, (List.cons.inj hu).2.symm⟩ hnone

/-! ## Dropping an occurrence at an end -/

@[simp]
lemma dropOpening_part_append (text : List Char) : dropOpening part (part ++ text) = text := by
  rw [dropOpening, if_pos (List.isPrefixOf_iff_prefix.mpr (List.prefix_append part text)),
    List.drop_left]

@[simp]
lemma dropClosing_append_part (text : List Char) : dropClosing part (text ++ part) = text := by
  rw [dropClosing, if_pos (List.isSuffixOf_iff_suffix.mpr (List.suffix_append text part)),
    List.length_append, Nat.add_sub_cancel, List.take_left]

lemma dropOpening_of_not_prefix {text : List Char} (h : ¬ part <+: text) :
    dropOpening part text = text := by
  rw [dropOpening, if_neg fun hp => h (List.isPrefixOf_iff_prefix.mp hp)]

lemma dropClosing_of_not_suffix {text : List Char} (h : ¬ part <:+ text) :
    dropClosing part text = text := by
  rw [dropClosing, if_neg fun hp => h (List.isSuffixOf_iff_suffix.mp hp)]

/-! ## The pieces between occurrences -/

lemma splitOn_nil : splitOn part [] = [[]] := by rw [splitOn]

lemma splitOn_cons (c : Char) (cs : List Char) :
    splitOn part (c :: cs) = if part <+: c :: cs then [] :: splitOn part (cs.drop (part.length - 1))
      else (splitOn part cs).modifyHead (c :: ·) := by
  rw [splitOn]
  simp only [List.isPrefixOf_iff_prefix]

/-- At an occurrence a piece ends. -/
lemma splitOn_part_append (hpart : part ≠ []) (rest : List Char) :
    splitOn part (part ++ rest) = [] :: splitOn part rest := by
  obtain ⟨c, cs, rfl⟩ := List.exists_cons_of_ne_nil hpart
  rw [List.cons_append, splitOn_cons, if_pos ⟨rest, rfl⟩]
  simp

lemma splitOn_ne_nil (text : List Char) : splitOn part text ≠ [] := by
  induction text with
  | nil => simp [splitOn_nil]
  | cons c cs ih =>
      rw [splitOn_cons]
      split
      · simp
      · simpa using ih

/-- A text is read from the left, one occurrence or one character at a time. -/
@[elab_as_elim]
theorem occurrence_induction (hpart : part ≠ []) {motive : List Char → Prop} (text : List Char)
    (nil : motive []) (occurrence : ∀ rest, motive rest → motive (part ++ rest))
    (char : ∀ c cs, ¬ part <+: c :: cs → motive cs → motive (c :: cs)) : motive text := by
  induction text using splitOn.induct part with
  | case1 => exact nil
  | case2 c cs h ih =>
      obtain ⟨rest, hrest⟩ := List.isPrefixOf_iff_prefix.mp h
      have hdrop : cs.drop (part.length - 1) = rest := by
        obtain ⟨d, ds, rfl⟩ := List.exists_cons_of_ne_nil hpart
        rw [← (List.cons.inj hrest).2]
        simp
      rw [← hrest]
      exact occurrence rest (hdrop ▸ ih)
  | case3 c cs h ih => exact char c cs (fun hp => h (List.isPrefixOf_iff_prefix.mpr hp)) ih

/-- Where no occurrence begins, the character belongs to the first piece. -/
lemma splitOn_cons_of_not_prefix {c : Char} {cs : List Char} (h : ¬ part <+: c :: cs) :
    ∃ n ns, splitOn part cs = n :: ns ∧ splitOn part (c :: cs) = (c :: n) :: ns := by
  obtain ⟨n, ns, hns⟩ : ∃ n ns, splitOn part cs = n :: ns :=
    List.exists_cons_of_ne_nil (splitOn_ne_nil cs)
  exact ⟨n, ns, hns, by rw [splitOn_cons, if_neg h, hns, List.modifyHead_cons]⟩

/-- **Nothing is lost by splitting.** -/
theorem intercalate_splitOn (hpart : part ≠ []) (text : List Char) :
    part.intercalate (splitOn part text) = text := by
  induction text using occurrence_induction hpart with
  | nil => simp [splitOn_nil]
  | occurrence rest ih =>
      rw [splitOn_part_append hpart, List.intercalate_cons_of_ne_nil (splitOn_ne_nil rest), ih]
      rfl
  | char c cs h ih =>
      obtain ⟨n, ns, hcs, hccs⟩ := splitOn_cons_of_not_prefix h
      rw [hccs, List.intercalate_cons_cons_left, ← hcs, ih]

/-- The first piece reaches up to the first occurrence. -/
lemma head_splitOn (text : List Char) :
    (splitOn part text).head? = some (beforeFirst part text) := by
  induction text with
  | nil => rw [splitOn_nil, beforeFirst, List.head?_cons]
  | cons c cs ih =>
      rw [splitOn_cons, beforeFirst_cons]
      split
      · rfl
      · simp [ih]

/-- No occurrence lies before the first one. -/
lemma not_infix_beforeFirst (hpart : part ≠ []) (text : List Char) :
    ¬ part <:+: beforeFirst part text := by
  rintro ⟨u, v, huv⟩
  obtain ⟨rest, htext, -, hmin⟩ : ∃ rest, text = beforeFirst part text ++ rest ∧ _ :=
    beforeFirst_spec text
  have hle := hmin u (v ++ rest) (by rw [← List.append_assoc, huv, ← htext])
  have hpos := List.length_pos_iff.mpr hpart
  have hlen := congrArg List.length huv
  simp only [List.length_append] at hlen
  omega

/-- **No piece holds the separator.** -/
theorem not_infix_of_mem_splitOn (hpart : part ≠ []) {text n : List Char}
    (h : n ∈ splitOn part text) : ¬ part <:+: n := by
  induction text using occurrence_induction hpart generalizing n with
  | nil =>
      rw [splitOn_nil, List.mem_singleton] at h
      simp [h, hpart]
  | occurrence rest ih =>
      rw [splitOn_part_append hpart] at h
      rcases List.mem_cons.mp h with rfl | h
      · simp [hpart]
      · exact ih h
  | char c cs hp ih =>
      obtain ⟨m, ms, hcs, hccs⟩ := splitOn_cons_of_not_prefix hp
      have hhead : (splitOn part (c :: cs)).head? = some (beforeFirst part (c :: cs)) :=
        head_splitOn (c :: cs)
      rw [hccs] at h hhead
      rcases List.mem_cons.mp h with rfl | h
      · rw [List.head?_cons, Option.some.injEq] at hhead
        rw [hhead]
        exact not_infix_beforeFirst hpart _
      · exact ih (hcs ▸ List.mem_cons_of_mem _ h)

/-- A text without the separator is its own only piece. -/
lemma splitOn_of_not_infix {n : List Char} (h : ¬ part <:+: n) : splitOn part n = [n] := by
  induction n with
  | nil => exact splitOn_nil
  | cons c cs ih =>
      rw [List.infix_cons_iff, not_or] at h
      rw [splitOn_cons, if_neg h.1, ih h.2]
      rfl

/-! ## Replacing occurrences -/

lemma replaceAll_nil (new : List Char) : replaceAll part new [] = [] := by
  rw [replaceAll, splitOn_nil]
  simp

/-- An occurrence is replaced. -/
lemma replaceAll_part_append (hpart : part ≠ []) (new rest : List Char) :
    replaceAll part new (part ++ rest) = new ++ replaceAll part new rest := by
  rw [replaceAll, splitOn_part_append hpart, List.intercalate_cons_of_ne_nil (splitOn_ne_nil rest)]
  rfl

/-- Where no occurrence begins, the character stays. -/
lemma replaceAll_cons_of_notPrefix {c : Char} {cs : List Char} (h : ¬ part <+: c :: cs)
    (new : List Char) : replaceAll part new (c :: cs) = c :: replaceAll part new cs := by
  obtain ⟨n, ns, hcs, hccs⟩ := splitOn_cons_of_not_prefix h
  rw [replaceAll, replaceAll, hccs, hcs, List.intercalate_cons_cons_left]

end Scratchpad.Text
