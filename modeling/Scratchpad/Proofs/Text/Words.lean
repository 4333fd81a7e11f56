import Scratchpad.Proofs.Text.Runs
import Scratchpad.Unicode.Word

/-!
# The words of a text

A word is a run of word characters that cannot be made longer.  A text is taken apart into its words
and the other characters, and put together again with other words.

* `words`, `mapWords` — the words of a text, and the text with each of them replaced.
* `IsWord`, `Outside` — what a word consists of, and where no word goes on.
* `word_induction` — a proof for a word with what follows it, and for any other character.
* `wordsFrom`, `mapWordsFrom` — the same from a place within the text.
* `words_mapWords`, `mapWords_mapWords` — if words are replaced by words, these are the words of the
  new text.
-/

namespace Scratchpad.Text

open Unicode (isWordChar)

/-- The words of a text, from the left. -/
def words : List Char → List (List Char)
  | [] => []
  | c :: cs =>
    if isWordChar c then (c :: cs.takeWhile isWordChar) :: words (cs.dropWhile isWordChar)
    else words cs
termination_by cs => cs.length
decreasing_by
  · exact Nat.lt_succ_of_le (List.length_dropWhile_le _ _)
  · simp

/-- The text with each word replaced, and everything between the words copied. -/
def mapWords (f : List Char → List Char) : List Char → List Char
  | [] => []
  | c :: cs =>
    if isWordChar c then f (c :: cs.takeWhile isWordChar) ++ mapWords f (cs.dropWhile isWordChar)
    else c :: mapWords f cs
termination_by cs => cs.length
decreasing_by
  · exact Nat.lt_succ_of_le (List.length_dropWhile_le _ _)
  · simp

/-- A word has at least one character, and only word characters. -/
def IsWord (w : List Char) : Prop := w ≠ [] ∧ ∀ c ∈ w, isWordChar c = true

instance : DecidablePred IsWord := fun w =>
  inferInstanceAs (Decidable (w ≠ [] ∧ ∀ c ∈ w, isWordChar c = true))

/-- No word goes on at the beginning of the text. -/
def Outside (cs : List Char) : Prop := ∀ c ∈ cs.head?, isWordChar c = false

/-! ## Word by word -/

variable {f g : List Char → List Char} {c : Char} {w cs : List Char}

@[simp]
lemma words_nil : words [] = [] := by simp [words]

@[simp]
lemma mapWords_nil (f : List Char → List Char) : mapWords f [] = [] := by simp [mapWords]

lemma words_cons (h : isWordChar c = false) : words (c :: cs) = words cs := by simp [words, h]

lemma mapWords_cons (h : isWordChar c = false) : mapWords f (c :: cs) = c :: mapWords f cs := by
  simp [mapWords, h]

lemma words_append (hw : IsWord w) (hcs : Outside cs) : words (w ++ cs) = w :: words cs := by
  obtain ⟨hne, hall⟩ := hw
  obtain ⟨c, w, rfl⟩ := List.exists_cons_of_ne_nil hne
  have hrest : ∀ d ∈ w, isWordChar d = true := fun d hd => hall d (List.mem_cons_of_mem c hd)
  rw [List.cons_append, words, if_pos (hall c List.mem_cons_self),
    takeWhile_append_of_head? hrest hcs, dropWhile_append_of_head? hrest hcs]

lemma mapWords_append (hw : IsWord w) (hcs : Outside cs) :
    mapWords f (w ++ cs) = f w ++ mapWords f cs := by
  obtain ⟨hne, hall⟩ := hw
  obtain ⟨c, w, rfl⟩ := List.exists_cons_of_ne_nil hne
  have hrest : ∀ d ∈ w, isWordChar d = true := fun d hd => hall d (List.mem_cons_of_mem c hd)
  rw [List.cons_append, mapWords, if_pos (hall c List.mem_cons_self),
    takeWhile_append_of_head? hrest hcs, dropWhile_append_of_head? hrest hcs]

/-- What holds of the empty text holds of all texts if it can be shown for a word with what follows
it, and for any other character with what follows that. -/
lemma word_induction {P : List Char → Prop} (nil : P [])
    (word : ∀ w cs, IsWord w → Outside cs → P cs → P (w ++ cs))
    (other : ∀ c cs, isWordChar c = false → P cs → P (c :: cs)) (cs : List Char) : P cs := by
  induction cs using words.induct with
  | case1 => exact nil
  | case2 c cs hc ih =>
      have hw : IsWord (c :: cs.takeWhile isWordChar) := by
        refine ⟨List.cons_ne_nil _ _, fun d hd => ?_⟩
        rcases List.mem_cons.mp hd with rfl | hd
        · exact hc
        · exact List.mem_takeWhile_imp hd
      have hcs := word _ _ hw (head?_dropWhile isWordChar cs) ih
      rwa [List.cons_append, List.takeWhile_append_dropWhile] at hcs
  | case3 c cs hc ih => exact other c cs (Bool.eq_false_iff.mpr hc) ih

/-! ## Replacing words by words -/

lemma mapWords_congr (h : ∀ w ∈ words cs, f w = g w) : mapWords f cs = mapWords g cs := by
  induction cs using word_induction with
  | nil => simp
  | word w cs hw hcs ih =>
      rw [words_append hw hcs] at h
      have hrest := ih fun v hv => h v (List.mem_cons_of_mem w hv)
      rw [mapWords_append hw hcs, mapWords_append hw hcs, h w List.mem_cons_self, hrest]
  | other c cs hc ih =>
      rw [words_cons hc] at h
      rw [mapWords_cons hc, mapWords_cons hc, ih h]

lemma mapWords_id (cs : List Char) : mapWords (fun w => w) cs = cs := by
  induction cs using word_induction with
  | nil => simp
  | word w cs hw hcs ih => rw [mapWords_append hw hcs, ih]
  | other c cs hc ih => rw [mapWords_cons hc, ih]

section

variable (hf : ∀ w, IsWord w → IsWord (f w))
include hf

omit hf in
lemma outside_mapWords (h : Outside cs) : Outside (mapWords f cs) := by
  cases cs with
  | nil => simpa using h
  | cons c cs =>
      rw [mapWords_cons (h c rfl)]
      exact h

/-- **The words of the new text** are those by which the words of the old one were replaced. -/
theorem words_mapWords (cs : List Char) : words (mapWords f cs) = (words cs).map f := by
  induction cs using word_induction with
  | nil => simp
  | word w cs hw hcs ih =>
      rw [mapWords_append hw hcs, words_append (hf w hw) (outside_mapWords hcs), ih,
        words_append hw hcs, List.map_cons]
  | other c cs hc ih => rw [mapWords_cons hc, words_cons hc, words_cons hc, ih]

/-- **Words can be replaced one after the other** or at once. -/
theorem mapWords_mapWords (g : List Char → List Char) (cs : List Char) :
    mapWords g (mapWords f cs) = mapWords (fun w => g (f w)) cs := by
  induction cs using word_induction with
  | nil => simp
  | word w cs hw hcs ih =>
      rw [mapWords_append hw hcs, mapWords_append (hf w hw) (outside_mapWords hcs), ih,
        mapWords_append hw hcs]
  | other c cs hc ih => rw [mapWords_cons hc, mapWords_cons hc, mapWords_cons hc, ih]

end

/-! ## From within a text -/

/-- The words from a place on, over which a word may go on. -/
def wordsFrom (inside : Bool) (cs : List Char) : List (List Char) :=
  if inside then words (cs.dropWhile isWordChar) else words cs

/-- The text from a place on with each word replaced, except one that goes on over the place. -/
def mapWordsFrom (inside : Bool) (f : List Char → List Char) (cs : List Char) : List Char :=
  if inside then cs.takeWhile isWordChar ++ mapWords f (cs.dropWhile isWordChar) else mapWords f cs

variable {inside : Bool}

lemma wordsFrom_of_outside (h : Outside cs) : wordsFrom inside cs = words cs := by
  have hdrop := dropWhile_append_of_head? (w := []) (by simp) h
  rw [List.nil_append] at hdrop
  simp [wordsFrom, hdrop]

lemma mapWordsFrom_of_outside (h : Outside cs) : mapWordsFrom inside f cs = mapWords f cs := by
  have htake := takeWhile_append_of_head? (w := []) (by simp) h
  have hdrop := dropWhile_append_of_head? (w := []) (by simp) h
  rw [List.nil_append] at htake hdrop
  simp [mapWordsFrom, htake, hdrop]

/-- The next character begins a word, or there is none that begins there. -/
lemma wordsFrom_cons : wordsFrom inside (c :: cs) =
    if inside = false ∧ isWordChar c = true then
      (c :: cs).takeWhile isWordChar :: wordsFrom (isWordChar c) cs
    else wordsFrom (isWordChar c) cs := by
  by_cases hc : isWordChar c = true
  · cases inside <;> simp [wordsFrom, words, hc]
  · cases inside <;> simp [wordsFrom, words, hc]

/-- The next character is kept if the word that begins there is. -/
lemma mapWordsFrom_cons (h : inside = false →
      f ((c :: cs).takeWhile isWordChar) = (c :: cs).takeWhile isWordChar) :
    mapWordsFrom inside f (c :: cs) = c :: mapWordsFrom (isWordChar c) f cs := by
  by_cases hc : isWordChar c = true
  · cases inside with
    | true => simp [mapWordsFrom, hc]
    | false =>
        have hkeep := h rfl
        rw [List.takeWhile_cons_of_pos hc] at hkeep
        simp [mapWordsFrom, mapWords, hc, hkeep]
  · cases inside <;> simp [mapWordsFrom, mapWords, hc]

end Scratchpad.Text
