import Scratchpad.Proofs.Text.Search

/-!
# Separators that cannot overlap themselves

Two occurrences of a separator can share characters only if the separator ends the way it begins.
One that does not is unbordered, and then splitting finds every occurrence, so that splitting and
joining are inverse to each other.

* `Unbordered` — no part of the separator is both a beginning and an end of it.
* `Apart`, `forall_apart_iff_unbordered` — no two occurrences in a text share characters; for an
  unbordered separator this holds of every text.
* `splitOn_between`, `splitOn_part_between` — splitting on both sides of an occurrence.
* `splitOn_intercalate` — pieces without the separator survive joining and splitting.
* `exists_of_intercalate_eq` — every occurrence in a joined text stands between two pieces.
* `dropOpening_intercalate`, `dropClosing_intercalate` — dropping a separator at an end of a joined
  text drops the empty piece there.
-/

namespace Scratchpad.Text

/-- No non-empty proper beginning of the separator is also an end of it. -/
def Unbordered (part : List Char) : Prop :=
  ∀ s, s ≠ [] → s ≠ part → s <+: part → ¬ s <:+ part

instance (part : List Char) : Decidable (Unbordered part) :=
  decidable_of_iff (∀ s ∈ part.inits, s ≠ [] → s ≠ part → ¬ s <:+ part) <| by
    simp only [Unbordered, List.mem_inits]
    exact ⟨fun h s hne hpart hpre => h s hpre hne hpart,
      fun h s hpre hne hpart => h s hne hpart hpre⟩

/-- The pieces come from a text without the separator. -/
def Free (part : List Char) (pieces : List (List Char)) : Prop :=
  ∀ n ∈ pieces, ¬ part <:+: n

/-- No two occurrences of the separator in the text share characters.  An occurrence is a beginning
of the text that ends with the separator. -/
def Apart (part text : List Char) : Prop :=
  ∀ u u', u ++ part <+: text → u' ++ part <+: text → u.length < u'.length →
    (u ++ part).length ≤ u'.length

variable {part : List Char}

/-- An occurrence at the beginning ends before the next one begins, or begins where that begins. -/
lemma Unbordered.prefix_of_prefix_append (hd : Unbordered part) {u v : List Char} (hu : u ≠ [])
    (h : part <+: u ++ (part ++ v)) : part <+: u := by
  obtain ⟨w, hw⟩ := h
  rcases List.append_eq_append_iff.mp hw with ⟨t, rfl, -⟩ | ⟨s, hs, hv⟩
  · exact List.prefix_append part t
  · -- The rest of the separator behind `u` is a beginning of the separator, too.
    have hlen := congrArg List.length hs
    rw [List.length_append] at hlen
    have hupos := List.length_pos_iff.mpr hu
    have hboth : s <+: part ++ v := ⟨w, hv.symm⟩
    have hpre : s <+: part :=
      List.prefix_of_prefix_length_le hboth (List.prefix_append part v) (by omega)
    by_cases hnil : s = []
    · rw [hs, hnil, List.append_nil]
    · exact absurd ⟨u, hs.symm⟩ (hd s hnil (fun hpart => by rw [hpart] at hlen; omega) hpre)

/-! ## Occurrences that lie apart -/

namespace Apart

lemma of_prefix {text t : List Char} (h : Apart part text) (ht : t <+: text) : Apart part t :=
  fun u u' hu hu' => h u u' (hu.trans ht) (hu'.trans ht)

lemma of_append {s t : List Char} (h : Apart part (s ++ t)) : Apart part t := by
  intro u u' hu hu' hlt
  have hle := h (s ++ u) (s ++ u') (by rwa [List.append_assoc, List.prefix_append_right_inj])
    (by rwa [List.append_assoc, List.prefix_append_right_inj])
    (by simpa only [List.length_append, Nat.add_lt_add_iff_left] using hlt)
  simp only [List.length_append] at hle ⊢
  omega

end Apart

/-- The occurrences of an unbordered separator lie apart. -/
theorem Unbordered.apart (hd : Unbordered part) (text : List Char) : Apart part text := by
  intro u u' hu hu' hlt
  obtain ⟨w, rfl⟩ : u <+: u' :=
    List.prefix_of_prefix_length_le ((List.prefix_append u part).trans hu)
      ((List.prefix_append u' part).trans hu') hlt.le
  have hw : w ≠ [] := by
    rintro rfl
    simp at hlt
  have hpre : u ++ part <+: u ++ (w ++ (part ++ [])) := by
    rw [List.append_nil, ← List.append_assoc]
    exact List.prefix_of_prefix_length_le hu hu' (by simp)
  have hle := (hd.prefix_of_prefix_append hw ((List.prefix_append_right_inj u).mp hpre)).length_le
  simpa using hle

/-- **Just the unbordered separators** lie apart in every text. -/
theorem forall_apart_iff_unbordered : (∀ text, Apart part text) ↔ Unbordered part := by
  refine ⟨fun h s hne hpart ⟨t, ht⟩ ⟨r, hr⟩ => ?_, Unbordered.apart⟩
  -- `r ++ s ++ t` begins and ends with the separator
  have hrpos : r ≠ [] := by
    rintro rfl
    exact hpart hr
  have hboth : part ++ t = r ++ part := by
    calc part ++ t = r ++ s ++ t := by rw [hr]
      _ = r ++ part := by rw [List.append_assoc, ht]
  have hfirst : [] ++ part <+: r ++ part := ⟨t, hboth⟩
  have hle := h (r ++ part) [] r hfirst (List.prefix_refl _) (List.length_pos_iff.mpr hrpos)
  have hspos := List.length_pos_iff.mpr hne
  rw [List.nil_append, ← hr, List.length_append] at hle
  omega

/-- **Splitting on both sides of an occurrence**, if none of those before it reaches into it. -/
theorem splitOn_between (hpart : part ≠ []) {u : List Char} (h : Apart part (u ++ part))
    (v : List Char) : splitOn part (u ++ part ++ v) = splitOn part u ++ splitOn part v := by
  rw [List.append_assoc]
  induction u using occurrence_induction hpart with
  | nil => rw [List.nil_append, splitOn_part_append hpart, splitOn_nil, List.singleton_append]
  | occurrence rest ih =>
      rw [List.append_assoc] at h
      rw [List.append_assoc, splitOn_part_append hpart, splitOn_part_append hpart, ih h.of_append]
      rfl
  | char c cs hnot ih =>
      have hnot' : ¬ part <+: c :: (cs ++ (part ++ v)) := by
        intro hpre
        have hlen : part.length ≤ (c :: cs ++ part).length := by
          rw [List.length_append]
          omega
        have hshort : [] ++ part <+: c :: cs ++ part :=
          List.prefix_of_prefix_length_le hpre ⟨v, by simp⟩ hlen
        have hle := h [] (c :: cs) hshort (List.prefix_refl _) (by simp)
        exact hnot (List.prefix_of_prefix_length_le hpre ⟨part ++ v, by simp⟩ hle)
      obtain ⟨n, ns, hcs, hccs⟩ := splitOn_cons_of_not_prefix hnot
      have hrest : Apart part (cs ++ part) := Apart.of_append (s := [c]) h
      rw [List.cons_append, splitOn_cons, if_neg hnot', ih hrest, hcs, hccs]
      rfl

/-- **Splitting on both sides of an occurrence.** -/
theorem splitOn_part_between (hpart : part ≠ []) (hd : Unbordered part) (u v : List Char) :
    splitOn part (u ++ part ++ v) = splitOn part u ++ splitOn part v :=
  splitOn_between hpart (hd.apart (u ++ part)) v

/-! ## Joining pieces -/

lemma intercalate_append (P : List (List Char)) {Q : List (List Char)} (hP : P ≠ []) (hQ : Q ≠ []) :
    part.intercalate (P ++ Q) = part.intercalate P ++ part ++ part.intercalate Q := by
  induction P with
  | nil => exact absurd rfl hP
  | cons n P ih =>
      rw [List.cons_append, List.intercalate_cons_of_ne_nil (by simp [hQ])]
      by_cases h : P = []
      · rw [h, List.nil_append, List.intercalate_singleton]
      · rw [ih h, List.intercalate_cons_of_ne_nil h]
        simp

/-- **Pieces without the separator survive joining and splitting.** -/
theorem splitOn_intercalate (hpart : part ≠ []) (hd : Unbordered part) {L : List (List Char)}
    (hL : L ≠ []) (hfree : Free part L) : splitOn part (part.intercalate L) = L := by
  induction L with
  | nil => exact absurd rfl hL
  | cons n L ih =>
      have hn : splitOn part n = [n] := splitOn_of_not_infix (hfree n List.mem_cons_self)
      by_cases h : L = []
      · rw [h, List.intercalate_singleton, hn]
      · rw [List.intercalate_cons_of_ne_nil h, splitOn_part_between hpart hd, hn,
          ih h fun m hm => hfree m (List.mem_cons_of_mem n hm)]
        rfl

lemma intercalate_injective (hpart : part ≠ []) (hd : Unbordered part) {L M : List (List Char)}
    (hL : L ≠ []) (hM : M ≠ []) (hfreeL : Free part L) (hfreeM : Free part M)
    (h : part.intercalate L = part.intercalate M) : L = M := by
  rw [← splitOn_intercalate hpart hd hL hfreeL, h, splitOn_intercalate hpart hd hM hfreeM]

/-- **Every occurrence in a joined text stands between two pieces.** -/
theorem exists_of_intercalate_eq (hpart : part ≠ []) (hd : Unbordered part) {L : List (List Char)}
    (hL : L ≠ []) (hfree : Free part L) {u v : List Char}
    (h : part.intercalate L = u ++ part ++ v) :
    ∃ P Q, L = P ++ Q ∧ P ≠ [] ∧ Q ≠ [] ∧ u = part.intercalate P ∧ v = part.intercalate Q := by
  refine ⟨splitOn part u, splitOn part v, ?_, splitOn_ne_nil u, splitOn_ne_nil v,
    (intercalate_splitOn hpart u).symm, (intercalate_splitOn hpart v).symm⟩
  rw [← splitOn_part_between hpart hd, ← h, splitOn_intercalate hpart hd hL hfree]

/-! ## The ends of a joined text -/

section Ends

variable (hpart : part ≠ []) (hd : Unbordered part) {L : List (List Char)} (hL : L ≠ [])
  (hfree : Free part L)

include hpart hd hfree

/-- Pieces that join to nothing are one empty piece. -/
lemma eq_singleton_of_intercalate_eq_nil (hL : L ≠ []) (h : part.intercalate L = []) :
    L = [[]] :=
  intercalate_injective hpart hd hL (List.cons_ne_nil _ _) hfree (by simpa [Free] using hpart)
    (by rw [h, List.intercalate_singleton])

include hL

/-- A joined text begins with the separator exactly if its first piece is empty and not the only
one. -/
theorem prefix_intercalate_iff :
    part <+: part.intercalate L ↔ ∃ M, M ≠ [] ∧ L = [] :: M := by
  constructor
  · rintro ⟨v, hv⟩
    obtain ⟨P, Q, rfl, hP, hQ, hnil, -⟩ :=
      exists_of_intercalate_eq hpart hd hL hfree (u := []) (v := v) hv.symm
    have hfreeP : Free part P := fun n hn => hfree n (List.mem_append_left Q hn)
    rw [eq_singleton_of_intercalate_eq_nil hpart hd hfreeP hP hnil.symm]
    exact ⟨Q, hQ, rfl⟩
  · rintro ⟨M, hM, rfl⟩
    rw [List.intercalate_cons_of_ne_nil hM, List.nil_append]
    exact List.prefix_append part _

/-- It ends with the separator exactly if its last piece is empty and not the only one. -/
theorem suffix_intercalate_iff :
    part <:+ part.intercalate L ↔ ∃ M, M ≠ [] ∧ L = M ++ [[]] := by
  constructor
  · rintro ⟨u, hu⟩
    obtain ⟨P, Q, rfl, hP, hQ, -, hnil⟩ :=
      exists_of_intercalate_eq hpart hd hL hfree (u := u) (v := []) (by rw [List.append_nil, hu])
    have hfreeQ : Free part Q := fun n hn => hfree n (List.mem_append_right P hn)
    rw [eq_singleton_of_intercalate_eq_nil hpart hd hfreeQ hQ hnil.symm]
    exact ⟨P, hP, rfl⟩
  · rintro ⟨M, hM, rfl⟩
    rw [intercalate_append M hM (List.cons_ne_nil _ _), List.intercalate_singleton, List.append_nil]
    exact List.suffix_append _ part

end Ends

/-- To drop a separator at the beginning drops the empty piece there. -/
lemma dropOpening_intercalate {M : List (List Char)} (hM : M ≠ []) :
    dropOpening part (part.intercalate ([] :: M)) = part.intercalate M := by
  rw [List.intercalate_cons_of_ne_nil hM, List.nil_append, dropOpening_part_append]

/-- To drop a separator at the end drops the empty piece there. -/
lemma dropClosing_intercalate {M : List (List Char)} (hM : M ≠ []) :
    dropClosing part (part.intercalate (M ++ [[]])) = part.intercalate M := by
  rw [intercalate_append M hM (List.cons_ne_nil _ _), List.intercalate_singleton, List.append_nil,
    dropClosing_append_part]

end Scratchpad.Text
