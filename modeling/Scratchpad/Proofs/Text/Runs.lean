import Mathlib

/-!
# Runs of characters

A run of characters of one kind ends where the first character of another kind stands.

* `head?_dropWhile` — behind a run there is a character of another kind, or none.
* `takeWhile_append_of_head?`, `dropWhile_append_of_head?` — such a run is found again.
-/

namespace Scratchpad.Text

variable {p : Char → Bool} {w cs : List Char}

lemma head?_dropWhile (p : Char → Bool) (cs : List Char) :
    ∀ c ∈ (cs.dropWhile p).head?, p c = false := by
  intro c hc
  have hnot := List.head?_dropWhile_not p cs
  rw [hc] at hnot
  exact hnot

lemma takeWhile_append_of_head? (hw : ∀ c ∈ w, p c = true) (hcs : ∀ c ∈ cs.head?, p c = false) :
    (w ++ cs).takeWhile p = w := by
  rw [List.takeWhile_append_of_pos hw]
  cases cs with
  | nil => simp
  | cons c cs => simp [hcs c rfl]

lemma dropWhile_append_of_head? (hw : ∀ c ∈ w, p c = true) (hcs : ∀ c ∈ cs.head?, p c = false) :
    (w ++ cs).dropWhile p = cs := by
  rw [List.dropWhile_append_of_pos hw]
  cases cs with
  | nil => simp
  | cons c cs => simp [hcs c rfl]

end Scratchpad.Text
