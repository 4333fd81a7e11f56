import Mathlib
import Scratchpad.Replace.CompiledRule

/-!
# The characters between two places

What is written for a match stands between what was before it and what is behind it.  On the way
through a text one character after the other comes from the text in front of the next match to what
has been written.

* `between_self`, `between_append_between`, `between_eq`, `between_eq_cons` — the characters between
  two places.
* `substitute_eq_cons`, `substitute_start` — a replacement on the way to the next match, and there.
-/

namespace Scratchpad.Replace

open Pattern (Match)

variable {text : Array Char} {start place next stop : ℕ} {c : Char} {cs w : List Char}

lemma between_eq_take (text : Array Char) (place next : ℕ) :
    between text place next = (text.toList.drop place).take (next - place) := by
  rw [between, Array.toList_extract, List.extract_eq_take_drop]

@[simp]
lemma between_self (text : Array Char) (place : ℕ) : between text place place = [] := by
  simp [between_eq_take]

lemma length_between (hstop : stop ≤ text.size) :
    (between text start stop).length = stop - start := by
  rw [between_eq_take, List.length_take, List.length_drop, Array.length_toList]
  omega

lemma between_append_between (hle : start ≤ place) (hle' : place ≤ stop) :
    between text start place ++ between text place stop = between text start stop := by
  obtain ⟨n, rfl⟩ := Nat.exists_eq_add_of_le hle
  obtain ⟨k, rfl⟩ := Nat.exists_eq_add_of_le hle'
  have hwhole : start + n + k - start = n + k := by omega
  rw [between_eq_take, between_eq_take, between_eq_take, hwhole, Nat.add_sub_cancel_left,
    Nat.add_sub_cancel_left, ← List.drop_drop, List.take_add]

lemma between_eq (h : w <+: text.toList.drop place) :
    between text place (place + w.length) = w := by
  rw [between_eq_take, Nat.add_sub_cancel_left]
  exact (List.prefix_iff_eq_take.mp h).symm

lemma between_eq_cons (h : text.toList.drop place = c :: cs) (hlt : place < next) :
    between text place next = c :: between text (place + 1) next := by
  have hrest : text.toList.drop (place + 1) = cs := by
    rw [← List.drop_drop, h, List.drop_one, List.tail_cons]
  have hlen : next - place = next - (place + 1) + 1 := by omega
  rw [between_eq_take, between_eq_take, h, hrest, hlen, List.take_succ_cons]

lemma lt_size_of_drop_eq_cons (h : text.toList.drop place = c :: cs) : place < text.size := by
  have hlen := congrArg List.length h
  simp at hlen
  omega

/-! ## Replacing the matches -/

variable {write : Match → List Char} {m : Match} {ms : List Match}

/-- A character in front of the next match is kept. -/
lemma substitute_eq_cons (h : text.toList.drop place = c :: cs)
    (hnext : ∀ m ∈ ms.head?, place < m.start) :
    substitute text write place ms = c :: substitute text write (place + 1) ms := by
  cases ms with
  | nil => exact between_eq_cons h (lt_size_of_drop_eq_cons h)
  | cons m ms =>
      have hgap := between_eq_cons h (hnext m rfl)
      simp [substitute, hgap]

/-- At the place of a match its replacement is written. -/
lemma substitute_start (h : m.start = place) :
    substitute text write place (m :: ms) = write m ++ substitute text write m.stop ms := by
  rw [substitute, h, between_self, List.nil_append]

end Scratchpad.Replace
