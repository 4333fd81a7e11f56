import Scratchpad.Proofs.Replace.Between
import Scratchpad.Proofs.Sentence.Separator

/-!
# Capitalizing in one scan

To capitalize a text with the default pattern is to go through it once: separators are kept, and the
first character behind one is written in upper case.

* `scan` — the scan, with `scan_append` and `scan_cons` for its steps.
* `separator_induction` — what holds of the empty text and is kept by both steps holds of all texts.
* `behind_of_scans` — what is done with the matches from a place on.
* **`apply_default`** — the capitalizer for the default pattern does what the scan does.
-/

namespace Scratchpad.Capitalizer

open Pattern Pattern.Expr
open Replace (between between_eq between_eq_cons)
open Unicode (upper capitalize)

/-! ## The scan -/

lemma Separates.length_pos {sep rest : List Char} (h : Separates sep rest) : 0 < sep.length := by
  cases h <;> simp

lemma length_pos_of_separator? {cs sep : List Char} (h : separator? cs = some sep) :
    0 < sep.length := by
  obtain ⟨rest, -, hsep⟩ := exists_of_separator? h
  exact hsep.length_pos

/-- Separators are kept.  What follows one begins with upper case, as does the text from where the
scan `begins` a sentence. -/
def scan (begins : Bool) : List Char → List Char
  | [] => []
  | c :: cs =>
    match _h : separator? (c :: cs) with
    | some sep => sep ++ scan true ((c :: cs).drop sep.length)
    | none => (if begins then upper c else [c]) ++ scan false cs
termination_by cs => cs.length
decreasing_by
  · have := length_pos_of_separator? _h
    simp only [List.length_drop, List.length_cons]
    omega
  · simp

section

variable {begins : Bool} {c : Char} {cs sep rest : List Char}

@[simp]
lemma scan_nil : scan begins [] = [] := by simp [scan]

/-- A separator is kept, and what follows it begins with upper case. -/
lemma scan_append (h : Separates sep rest) : scan begins (sep ++ rest) = sep ++ scan true rest := by
  have hpos := h.length_pos
  have hsep := separator?_append h
  cases sep with
  | nil => simp at hpos
  | cons c sep =>
      rw [List.cons_append] at hsep ⊢
      rw [scan]
      split
      · next sep' h' =>
        rw [hsep] at h'
        cases h'
        simp
      · next h' =>
        rw [hsep] at h'
        cases h'

/-- Where no separator begins, a character is kept or written in upper case. -/
lemma scan_cons (h : separator? (c :: cs) = none) :
    scan begins (c :: cs) = (if begins then upper c else [c]) ++ scan false cs := by
  rw [scan]
  split
  · next sep h' =>
    rw [h] at h'
    cases h'
  · rfl

/-- What holds of the empty text holds of all texts if it can be shown for a separator with what
follows it, and for any other character with what follows that. -/
lemma separator_induction {P : List Char → Prop} (nil : P [])
    (separator : ∀ sep rest, Separates sep rest → P rest → P (sep ++ rest))
    (cons : ∀ c cs, separator? (c :: cs) = none → P cs → P (c :: cs)) (cs : List Char) : P cs := by
  induction hn : cs.length using Nat.strong_induction_on generalizing cs with
  | _ n ih =>
    subst hn
    cases cs with
    | nil => exact nil
    | cons c cs =>
        cases hsep : separator? (c :: cs) with
        | none => exact cons c cs hsep (ih cs.length (by simp) cs rfl)
        | some sep =>
            obtain ⟨rest, hcs, hrest⟩ := exists_of_separator? hsep
            have hlen : rest.length < (c :: cs).length := by
              rw [hcs, List.length_append]
              have := hrest.length_pos
              omega
            rw [hcs]
            exact separator sep rest hrest (ih _ hlen rest rfl)

end

/-! ## What is done with the matches -/

/-- The characters up to the next separator. -/
def gap (text : Array Char) (place : ℕ) (ms : List Match) : List Char :=
  between text place ((ms.head?.map Match.start).getD text.size)

/-- The text from the next separator on, capitalized. -/
def behind (text : Array Char) : List Match → List Char
  | [] => []
  | m :: ms => between text m.start m.stop ++ sentences text m.stop ms

section

variable {text : Array Char} {place : ℕ} {c : Char} {cs : List Char} {ms : List Match}

lemma sentences_eq (text : Array Char) (place : ℕ) (ms : List Match) :
    sentences text place ms = capitalize (gap text place ms) ++ behind text ms := by
  cases ms with
  | nil => simp [sentences, gap, behind]
  | cons m ms => simp [sentences, gap, behind]

lemma gap_eq_cons (h : text.toList.drop place = c :: cs) (hnext : ∀ m ∈ ms.head?, place < m.start) :
    gap text place ms = c :: gap text (place + 1) ms := by
  apply between_eq_cons h
  cases ms with
  | nil => exact Replace.lt_size_of_drop_eq_cons h
  | cons m ms => exact hnext m rfl

/-- From any place of the text on, what is done with the matches is what the scan does. -/
lemma behind_of_scans (h : Scans sentenceExpr text place ms) :
    gap text place ms ++ behind text ms = scan false (text.toList.drop place) ∧
      capitalize (gap text place ms) ++ behind text ms = scan true (text.toList.drop place) := by
  induction h with
  | done =>
      have hnil : text.toList.drop text.size = [] := by simp [← Array.length_toList]
      simp [gap, behind, capitalize, hnil]
  | @skip place ms hlt hnone hrest ih =>
      have hdrop := List.drop_eq_getElem_cons (l := text.toList) (i := place) (by simpa using hlt)
      have hgap := gap_eq_cons hdrop fun m hm => Nat.lt_of_succ_le (hrest.le_start m hm)
      rw [matchAt_sentenceExpr, Option.map_eq_none_iff, hdrop] at hnone
      rw [hdrop, hgap, scan_cons hnone, scan_cons hnone, ← ih.1]
      simp [capitalize]
  | @found place m ms hm hrest ih =>
      rw [matchAt_sentenceExpr] at hm
      obtain ⟨sep, hsep, rfl⟩ := Option.map_eq_some_iff.mp hm
      obtain ⟨rest, hdrop, hseparates⟩ := exists_of_separator? hsep
      have hbehind : text.toList.drop (place + sep.length) = rest := by
        rw [← List.drop_drop, hdrop, List.drop_left]
      have hmatch : between text place (place + sep.length) = sep :=
        between_eq (hdrop ▸ List.prefix_append sep rest)
      rw [hbehind] at ih
      rw [hdrop, scan_append hseparates, scan_append hseparates, ← ih.2, ← sentences_eq]
      simp [gap, behind, hmatch, capitalize]

/-- **Capitalizing with the default pattern** is one scan of the text. -/
theorem apply_default (s : String) :
    Capitalizer.default.apply s = .ofList (scan true s.toList) := by
  have htakes : ∀ p m, sentenceExpr.matchAt s.toList.toArray p = some m → p < m.stop := by
    intro p m hm
    rw [matchAt_sentenceExpr] at hm
    obtain ⟨sep, hsep, rfl⟩ := Option.map_eq_some_iff.mp hm
    exact Nat.lt_add_of_pos_right (length_pos_of_separator? hsep)
  have hsentences := (behind_of_scans (scans_allMatches sentenceExpr_isPlain htakes)).2
  rw [← sentences_eq] at hsentences
  rw [default_eq, apply]
  exact congrArg String.ofList hsentences

end

end Scratchpad.Capitalizer
