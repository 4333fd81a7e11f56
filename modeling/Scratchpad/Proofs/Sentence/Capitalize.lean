import Scratchpad.Proofs.Sentence.Scan
import Scratchpad.Proofs.Unicode.Upper

/-!
# Capitalizing twice

A second scan of a text finds the same separators, and upper case where it would write it.

**No separator is lost**, as white space does not grow: `Separates.scan`.

**No separator is gained.**  What stands behind the first character of a separator could have been
there only from the beginning (`prefix_of_prefix_scan`), and upper case makes neither a mark nor a
brace (`upper_cases`): `separator?_cons_scan`.

**The text stays the same**, as upper case begins with a character that is its own upper case:
`scan_scan`, `apply_default_apply_default`.
-/

namespace Scratchpad.Capitalizer

open Pattern Pattern.Expr
open Unicode (CharSet blanks isBlank decimalDigits upper)

/-! ## The same separators -/

section

variable {begins : Bool} {c d : Char} {cs sep rest z : List Char}

/-- Upper case makes neither white space nor a mark nor a brace. -/
lemma upper_cases (c : Char) :
    upper c = [c] ∨ ∀ v ∈ upper c, isBlank v = false ∧ marks.contains v = false ∧ v ≠ '{' := by
  have hblank : Unicode.upperMisses blanks = true := by decide +kernel
  have hmark : Unicode.upperMisses marks = true := by decide +kernel
  have hbrace : Unicode.upperMisses (.single '{') = true := by decide +kernel
  rcases Unicode.upper_eq_self_or_notMem hblank c with h | hblank
  · exact .inl h
  rcases Unicode.upper_eq_self_or_notMem hmark c with h | hmark
  · exact .inl h
  rcases Unicode.upper_eq_self_or_notMem hbrace c with h | hbrace
  · exact .inl h
  refine .inr fun v hv => ⟨hblank v hv, hmark v hv, ?_⟩
  have := hbrace v hv
  rwa [contains_single, decide_eq_false_iff_not] at this

/-- A separator begins with a mark or with a brace. -/
lemma separator?_cons_eq_none (hmark : marks.contains c = false) (hbrace : c ≠ '{') :
    separator? (c :: cs) = none := by
  rw [Option.eq_none_iff_forall_ne_some]
  intro sep h
  obtain ⟨rest, hcs, hsep⟩ := exists_of_separator? h
  cases hsep with
  | ending hc hws hblank hrest =>
      cases (List.cons.inj hcs).1
      rw [hmark] at hc
      cases hc
  | opening hpos hle hds => exact hbrace (List.cons.inj hcs).1

/-- What a separator can begin with: a mark and white space, or two braces. -/
def Joins (c d : Char) : Prop := marks.contains c = true ∧ isBlank d = true ∨ c = '{' ∧ d = '{'

lemma Separates.exists_joins (h : Separates sep rest) :
    ∃ c d sep', sep = c :: d :: sep' ∧ Joins c d := by
  cases h with
  | @ending c ws rest hc hws hblank hrest =>
      obtain ⟨w, ws, rfl⟩ := List.exists_cons_of_ne_nil hws
      exact ⟨c, w, ws, rfl, .inl ⟨hc, hblank w List.mem_cons_self⟩⟩
  | opening hpos hle hds => exact ⟨_, _, _, rfl, .inr ⟨rfl, rfl⟩⟩

/-- The first character is kept by a scan that does not begin a sentence. -/
lemma head?_scan_false (cs : List Char) : (scan false cs).head? = cs.head? := by
  induction cs using separator_induction with
  | nil => simp
  | separator sep rest h ih =>
      obtain ⟨c, d, sep', rfl, -⟩ := h.exists_joins
      rw [scan_append h]
      rfl
  | cons c cs h ih =>
      rw [scan_cons h]
      rfl

/-- A scan that begins a sentence does not begin with white space that was not there. -/
lemma head?_scan_true (h : ∀ d ∈ cs.head?, isBlank d = false) :
    ∀ d ∈ (scan true cs).head?, isBlank d = false := by
  induction cs using separator_induction with
  | nil => simp
  | separator sep rest hsep ih =>
      obtain ⟨c, d, sep', rfl, -⟩ := hsep.exists_joins
      rw [scan_append hsep]
      exact h
  | cons c cs hsep ih =>
      obtain ⟨u, us, hupper, -⟩ := Unicode.exists_upper_eq_cons c
      rw [scan_cons hsep, if_pos rfl, hupper]
      rintro d ⟨⟩
      rcases upper_cases c with hself | hall
      · rw [hself] at hupper
        cases hupper
        exact h c rfl
      · exact (hall u (by rw [hupper]; exact List.mem_cons_self)).1

/-- **No separator is lost.** -/
lemma Separates.scan (h : Separates sep rest) : Separates sep (scan true rest) := by
  cases h with
  | ending hc hws hblank hrest => exact .ending hc hws hblank (head?_scan_true hrest)
  | opening hpos hle hds => exact .opening hpos hle hds

/-- **No text appears** in which no separator could begin. -/
lemma prefix_of_prefix_scan (hz : z.IsChain fun c d => ¬ Joins c d) (h : z <+: scan false cs) :
    z <+: cs := by
  induction z generalizing cs with
  | nil => exact List.nil_prefix
  | cons x z ih =>
      induction cs using separator_induction with
      | nil => simp at h
      | separator sep rest hsep =>
          obtain ⟨c, d, sep', rfl, hjoins⟩ := hsep.exists_joins
          rw [scan_append hsep, List.cons_append, List.cons_prefix_cons] at h
          obtain ⟨rfl, h⟩ := h
          rw [List.cons_append, List.cons_prefix_cons]
          refine ⟨rfl, ?_⟩
          cases z with
          | nil => exact List.nil_prefix
          | cons y z =>
              rw [List.cons_append, List.cons_prefix_cons] at h
              obtain ⟨rfl, -⟩ := h
              exact absurd hjoins hz.rel
      | cons c cs hsep =>
          rw [scan_cons hsep] at h
          obtain ⟨rfl, htail⟩ := List.cons_prefix_cons.mp h
          exact List.cons_prefix_cons.mpr ⟨rfl, ih hz.tail htail⟩

lemma not_joins (hmark : marks.contains c = false) (hbrace : c ≠ '{') : ¬ Joins c d := by
  rintro (⟨hc, -⟩ | ⟨hc, -⟩)
  · rw [hmark] at hc
    cases hc
  · exact hbrace hc

lemma eq_of_mem_marks (h : marks.contains c = true) : c = '!' ∨ c = '.' ∨ c = ':' ∨ c = '?' := by
  simp only [CharSet.contains, CharSet.hasCode, marks, Unicode.inRanges] at h
  simp only [← Char.toNat_inj]
  grind

/-- No digit is a mark or a brace. -/
lemma not_joins_digit (hc : decimalDigits.contains c = true) : ¬ Joins c d := by
  apply not_joins
  · rw [Bool.eq_false_iff]
    intro hmark
    rcases eq_of_mem_marks hmark with rfl | rfl | rfl | rfl <;> exact absurd hc (by decide)
  · rintro rfl
    exact absurd hc (by decide)

lemma isChain_number {ds : List Char} (hc : ∀ d, ¬ Joins c d)
    (hds : ∀ d ∈ ds, decimalDigits.contains d = true) :
    (c :: (ds ++ [':', ':'])).IsChain fun c d => ¬ Joins c d := by
  induction ds generalizing c with
  | nil =>
      have hcolons : ¬ Joins ':' ':' := by
        rintro (⟨-, h⟩ | ⟨h, -⟩) <;> exact absurd h (by decide)
      simp [hc, hcolons]
  | cons d ds ih =>
      rw [List.cons_append, List.isChain_cons_cons]
      have hd := fun x => not_joins_digit (d := x) (hds d List.mem_cons_self)
      exact ⟨hc d, ih hd fun x hx => hds x (List.mem_cons_of_mem d hx)⟩

/-- Behind the first brace of a cloze no separator begins. -/
lemma isChain_opening {ds : List Char} (hds : ∀ d ∈ ds, decimalDigits.contains d = true) :
    ('{' :: 'c' :: (ds ++ [':', ':'])).IsChain fun c d => ¬ Joins c d := by
  have hbrace : ¬ Joins '{' 'c' := by
    rintro (⟨h, -⟩ | ⟨-, h⟩) <;> exact absurd h (by decide)
  exact List.isChain_cons_cons.mpr
    ⟨hbrace, isChain_number (fun d => not_joins (by decide) (by decide)) hds⟩

/-- A mark in front of white space begins a separator. -/
lemma separator?_ne_none (hc : marks.contains c = true) (hd : isBlank d = true) :
    separator? (c :: d :: cs) ≠ none := by
  simp [separator?, ending?, hc, hd]

/-- **No separator is gained.** -/
lemma separator?_cons_scan (h : separator? (c :: cs) = none) :
    separator? (c :: scan false cs) = none := by
  rw [Option.eq_none_iff_forall_ne_some]
  intro sep hsep
  obtain ⟨rest, hcs, hseparates⟩ := exists_of_separator? hsep
  cases hseparates with
  | @ending c ws rest hc hws hblank hrest =>
      obtain ⟨w, ws, rfl⟩ := List.exists_cons_of_ne_nil hws
      obtain ⟨rfl, hscan⟩ := List.cons.inj hcs
      have hhead : cs.head? = some w := by
        rw [← head?_scan_false, hscan]
        rfl
      obtain ⟨cs, rfl⟩ := List.head?_eq_some_iff.mp hhead
      exact separator?_ne_none hc (hblank w List.mem_cons_self) h
  | @opening ds rest hpos hle hds =>
      obtain ⟨rfl, hscan⟩ := List.cons.inj hcs
      have hpre : '{' :: 'c' :: (ds ++ [':', ':']) <+: scan false cs := ⟨rest, hscan.symm⟩
      obtain ⟨rest', hrest'⟩ := prefix_of_prefix_scan (isChain_opening hds) hpre
      have hseparates : Separates _ rest' := .opening hpos hle hds
      have hfound := separator?_append hseparates
      rw [List.cons_append, hrest', h] at hfound
      cases hfound

/-! ## The same text -/

lemma scan_false_append (hz : ∀ v ∈ z, marks.contains v = false ∧ v ≠ '{') :
    scan false (z ++ cs) = z ++ scan false cs := by
  induction z with
  | nil => rfl
  | cons v z ih =>
      have hv := hz v List.mem_cons_self
      have hrest := ih fun w hw => hz w (List.mem_cons_of_mem v hw)
      rw [List.cons_append, scan_cons (separator?_cons_eq_none hv.1 hv.2), hrest]
      rfl

/-- **A second scan changes nothing.** -/
theorem scan_scan (begins : Bool) (cs : List Char) :
    scan begins (scan begins cs) = scan begins cs := by
  induction cs using separator_induction generalizing begins with
  | nil => simp
  | separator sep rest h ih => rw [scan_append h, scan_append h.scan, ih]
  | cons c cs h ih =>
      rw [scan_cons h]
      cases begins with
      | false =>
          simp only [Bool.false_eq_true, if_false, List.singleton_append]
          rw [scan_cons (separator?_cons_scan h), ih]
          simp
      | true =>
          obtain ⟨u, us, hupper, hsettled⟩ := Unicode.exists_upper_eq_cons c
          rw [if_pos rfl]
          rcases upper_cases c with hself | hall
          · rw [hself, List.singleton_append, scan_cons (separator?_cons_scan h), ih, if_pos rfl,
              hself]
            rfl
          · rw [hupper] at hall ⊢
            have hu := hall u List.mem_cons_self
            have hus := fun v hv => (hall v (List.mem_cons_of_mem u hv)).2
            rw [List.cons_append, scan_cons (separator?_cons_eq_none hu.2.1 hu.2.2), if_pos rfl,
              hsettled, scan_false_append hus, ih]
            rfl

end

/-- **Capitalizing with the default pattern a second time changes nothing.** -/
theorem apply_default_apply_default (s : String) :
    Capitalizer.default.apply (Capitalizer.default.apply s) = Capitalizer.default.apply s := by
  rw [apply_default, apply_default, String.toList_ofList, scan_scan]

/-- Separators may be adjacent, and upper case may be longer. -/
example : Capitalizer.default.apply "ßa?  \x7b\x7bc1::ŉb" = "SSa?  \x7b\x7bc1::ʼNb" := by
  decide +kernel

end Scratchpad.Capitalizer
