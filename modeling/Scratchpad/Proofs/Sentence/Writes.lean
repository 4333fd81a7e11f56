import Scratchpad.Proofs.Sentence.Scan

/-!
# The rules of the scan

What the default capitalizer writes, said without a search.  A scan goes through the text from left
to right.  All that it remembers is whether the next character begins a sentence, as the first one
does.

* `Writes` — what a scan writes for a text, one rule for each step that it can take.
* `writes_iff_eq_scan` — for every text there is exactly one way to apply the rules.
* **`writes_iff_eq_apply_default`** — the default capitalizer writes what the rules say.
-/

namespace Scratchpad.Capitalizer

open Unicode (upper)

/-- **What a scan writes** for a text, where `begins` says whether the next character begins a
sentence. -/
inductive Writes : (begins : Bool) → (text written : List Char) → Prop
  | done {begins : Bool} : Writes begins [] []
  /-- A mark with all the white space behind it is copied, and so is the opening of a cloze.  What
  follows begins a sentence. -/
  | separator {begins : Bool} {sep rest written : List Char} (hsep : Separates sep rest)
      (hrest : Writes true rest written) : Writes begins (sep ++ rest) (sep ++ written)
  /-- Any other character that begins a sentence is written in upper case. -/
  | first {c : Char} {cs written : List Char}
      (hnone : ∀ sep rest, Separates sep rest → c :: cs ≠ sep ++ rest)
      (hrest : Writes false cs written) : Writes true (c :: cs) (upper c ++ written)
  /-- Any other character is copied. -/
  | inside {c : Char} {cs written : List Char}
      (hnone : ∀ sep rest, Separates sep rest → c :: cs ≠ sep ++ rest)
      (hrest : Writes false cs written) : Writes false (c :: cs) (c :: written)

section

variable {begins : Bool} {c : Char} {cs written : List Char}

/-- Nothing that separates stands at the beginning of a text exactly if no separator is found
there. -/
lemma separator?_eq_none_iff :
    separator? cs = none ↔ ∀ sep rest, Separates sep rest → cs ≠ sep ++ rest := by
  constructor
  · rintro hnone sep rest hsep rfl
    rw [separator?_append hsep] at hnone
    cases hnone
  · intro hall
    rw [Option.eq_none_iff_forall_ne_some]
    intro sep hsep
    obtain ⟨rest, hcs, hrest⟩ := exists_of_separator? hsep
    exact hall sep rest hrest hcs

/-- The scan follows the rules. -/
lemma writes_scan (begins : Bool) (cs : List Char) : Writes begins cs (scan begins cs) := by
  induction cs using separator_induction generalizing begins with
  | nil =>
      rw [scan_nil]
      exact .done
  | separator sep rest hsep ih =>
      rw [scan_append hsep]
      exact .separator hsep (ih true)
  | cons c cs hnone ih =>
      rw [scan_cons hnone]
      cases begins with
      | false => exact .inside (separator?_eq_none_iff.mp hnone) (ih false)
      | true => exact .first (separator?_eq_none_iff.mp hnone) (ih false)

/-- The rules leave no choice. -/
lemma Writes.eq_scan (h : Writes begins cs written) : written = scan begins cs := by
  induction h with
  | done => rw [scan_nil]
  | separator hsep _ ih => rw [scan_append hsep, ih]
  | first hnone _ ih => rw [scan_cons (separator?_eq_none_iff.mpr hnone), if_pos rfl, ih]
  | inside hnone _ ih =>
      rw [scan_cons (separator?_eq_none_iff.mpr hnone), if_neg Bool.false_ne_true, ih,
        List.singleton_append]

/-- **What the rules say is what the scan does.** -/
theorem writes_iff_eq_scan : Writes begins cs written ↔ written = scan begins cs := by
  constructor
  · exact Writes.eq_scan
  · rintro rfl
    exact writes_scan begins cs

end

/-- **The default capitalizer writes what the rules of the scan say**, for every text, and the rules
say nothing else. -/
theorem writes_iff_eq_apply_default (s : String) (written : List Char) :
    Writes true s.toList written ↔ written = (Capitalizer.default.apply s).toList := by
  rw [apply_default, String.toList_ofList, writes_iff_eq_scan]

/-- A colon in front of white space ends a sentence, also where a cloze opens.  Three digits make no
opening. -/
example : Writes true "x\x7b\x7bc12::\x7b\x7bc123::a: \x7b\x7bc1: b".toList
    "X\x7b\x7bc12::\x7b\x7bc123::a: \x7b\x7bc1: B".toList :=
  writes_iff_eq_scan.mpr (by decide +kernel)

end Scratchpad.Capitalizer
