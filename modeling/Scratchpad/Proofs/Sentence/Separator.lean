import Scratchpad.Proofs.Pattern.Literal
import Scratchpad.Proofs.Pattern.Scan
import Scratchpad.Proofs.Text.Runs
import Scratchpad.Sentence

/-!
# What separates sentences

Between two sentences there is a mark with white space behind it, or the opening of a cloze.  This
is what the default pattern looks for, and it can be told from the characters ahead.

* `sentenceExpr` — what the default pattern means.
* `separator?` — the separator at the beginning of a text.
* `Separates`, `separator?_eq_some_iff` — what a separator consists of, and what may follow it.
* **`matchAt_sentenceExpr`** — a match of the pattern is a separator.
-/

namespace Scratchpad.Capitalizer

open Pattern Pattern.Expr
open Text (head?_dropWhile takeWhile_append_of_head? dropWhile_append_of_head?)
open Unicode (CharSet blanks isBlank decimalDigits)

/-! ## The pattern -/

/-- The marks that can end a sentence: `!`, `.`, `:` and `?`. -/
def marks : CharSet := ⟨[(0x21, 0x21), (0x2E, 0x2E), (0x3A, 0x3A), (0x3F, 0x3F)]⟩

/-- A mark with white space behind it. -/
def endingExpr : Expr := .concat (.chars marks) (.repetition 1 none true (.chars blanks))

/-- One or two digits. -/
def numberExpr : Expr := .repetition 1 (some 2) true (.chars decimalDigits)

/-- The opening of a cloze. -/
def openingExpr : Expr :=
  .ofList ((['{', '{', 'c'].map fun c => .chars (.single c)) ++
    numberExpr :: [':', ':'].map fun c => .chars (.single c))

/-- What separates sentences. -/
def sentenceExpr : Expr := .alternation endingExpr openingExpr

/-- The default pattern means what it is supposed to mean. -/
lemma compile_defaultSentenceEnd :
    Regex.compile defaultSentenceEnd = .ok (.ofExpr sentenceExpr) := by
  decide +kernel

lemma default_eq : Capitalizer.default = ⟨.ofExpr sentenceExpr⟩ := by
  unfold Capitalizer.default
  split
  · next regex h =>
    rw [compile_defaultSentenceEnd] at h
    rw [Except.ok.inj h]
  · next e h =>
    rw [compile_defaultSentenceEnd] at h
    cases h

lemma sentenceExpr_isPlain : sentenceExpr.IsPlain := by decide

/-! ## Separators -/

/-- A mark and the white space behind it. -/
def ending? : List Char → Option (List Char)
  | [] => none
  | c :: cs =>
    if marks.contains c ∧ cs.takeWhile isBlank ≠ [] then some (c :: cs.takeWhile isBlank) else none

/-- The opening of a cloze, whose number has one or two digits. -/
def opening? : List Char → Option (List Char)
  | '{' :: '{' :: 'c' :: cs =>
    let digits := cs.takeWhile decimalDigits.contains
    if (1 ≤ digits.length ∧ digits.length ≤ 2) ∧
        [':', ':'] <+: cs.dropWhile decimalDigits.contains then
      some ('{' :: '{' :: 'c' :: (digits ++ [':', ':']))
    else none
  | _ => none

/-- The separator at the beginning of a text. -/
def separator? (cs : List Char) : Option (List Char) := (ending? cs).or (opening? cs)

/-- What a separator consists of, and what may follow it. -/
inductive Separates : (sep rest : List Char) → Prop
  | ending {c : Char} {ws rest : List Char} (hc : marks.contains c = true) (hws : ws ≠ [])
      (hblank : ∀ w ∈ ws, isBlank w = true) (hrest : ∀ d ∈ rest.head?, isBlank d = false) :
      Separates (c :: ws) rest
  | opening {ds rest : List Char} (hpos : 1 ≤ ds.length) (hle : ds.length ≤ 2)
      (hds : ∀ d ∈ ds, decimalDigits.contains d = true) :
      Separates ('{' :: '{' :: 'c' :: (ds ++ [':', ':'])) rest

section

variable {cs sep rest : List Char}

/-- A separator is found with what separates, -/
lemma exists_of_separator? (h : separator? cs = some sep) :
    ∃ rest, cs = sep ++ rest ∧ Separates sep rest := by
  rw [separator?, Option.or_eq_some_iff] at h
  rcases h with h | ⟨-, h⟩
  · cases cs with
    | nil => cases h
    | cons c cs =>
        rw [ending?] at h
        split at h
        · next hc =>
          cases h
          refine ⟨cs.dropWhile isBlank, by simp, .ending hc.1 hc.2 ?_ (head?_dropWhile _ _)⟩
          exact fun w hw => List.mem_takeWhile_imp hw
        · cases h
  · unfold opening? at h
    split at h
    · next cs =>
      dsimp only at h
      split at h
      · next hcond =>
        cases h
        obtain ⟨⟨hpos, hle⟩, rest, hrest⟩ := hcond
        have hcs := List.takeWhile_append_dropWhile (p := decimalDigits.contains) (l := cs)
        refine ⟨rest, ?_, .opening hpos hle fun d hd => List.mem_takeWhile_imp hd⟩
        rw [← hrest] at hcs
        conv_lhs => rw [← hcs]
        simp
      · cases h
    · cases h

/-- and what separates is found. -/
lemma separator?_append (h : Separates sep rest) : separator? (sep ++ rest) = some sep := by
  cases h with
  | @ending c ws rest hc hws hblank hrest =>
      have htake := takeWhile_append_of_head? hblank hrest
      have hending : ending? (c :: ws ++ rest) = some (c :: ws) := by
        rw [List.cons_append, ending?, htake, if_pos ⟨hc, hws⟩]
      rw [separator?, hending, Option.some_or]
  | @opening ds rest hpos hle hds =>
      have hcolon : ∀ d ∈ (':' :: ':' :: rest).head?, decimalDigits.contains d = false := by
        rintro d ⟨⟩
        decide
      have htake := takeWhile_append_of_head? hds hcolon
      have hdrop := dropWhile_append_of_head? hds hcolon
      have hbrace : marks.contains '{' = false := by decide
      have hending : ∀ cs, ending? ('{' :: cs) = none := by
        intro cs
        simp [ending?, hbrace]
      simp only [List.cons_append, List.append_assoc, List.nil_append, separator?, hending,
        opening?, htake, hdrop, Option.none_or]
      rw [if_pos ⟨⟨hpos, hle⟩, ⟨rest, rfl⟩⟩]

end

/-! ## What the pattern finds -/

section

variable {text : Array Char} {s : Spot} {cs : List Char}

lemma first_endingExpr (h : Ahead text s cs) :
    endingExpr.first text s = (ending? cs).map s.skip := by
  rw [endingExpr, first_concat]
  cases cs with
  | nil => simp [ways_chars_nil h, ending?]
  | cons c cs =>
      rw [ways_chars_cons h, ending?]
      by_cases hc : marks.contains c = true
      · have hblanks : (repetition 1 none true (chars blanks)).first text (s.skip [c])
            = if cs.takeWhile isBlank = [] then none
              else some ((s.skip [c]).skip (cs.takeWhile isBlank)) :=
          first_greedy_pos blanks (Ahead.skip (w := [c]) h)
        rw [if_pos hc, List.findSome?_singleton, hblanks]
        by_cases hws : cs.takeWhile isBlank = []
        · simp [hws]
        · simp [hc, hws]
      · simp [hc]

/-- Two colons are not matched in front of a digit. -/
lemma ways_colons_of_digit {c : Char} (h : Ahead text s (c :: cs))
    (hc : decimalDigits.contains c = true) : (literal [':', ':']).ways text s = [] := by
  rw [ways_literal _ h, if_neg]
  intro hpre
  obtain ⟨rfl, -⟩ := List.cons_prefix_cons.mp hpre
  exact absurd hc (by decide)

lemma first_openingExpr (h : Ahead text s cs) :
    openingExpr.first text s = (opening? cs).map s.skip := by
  have hways : openingExpr.ways text s = ((literal ['{', '{', 'c']).ways text s).flatMap fun t =>
      (numberExpr.ways text t).flatMap ((literal [':', ':']).ways text) := by
    rw [openingExpr, ways_ofList_append]
    rfl
  rw [first, hways, ways_literal _ h]
  by_cases hpre : ['{', '{', 'c'] <+: cs
  · obtain ⟨cs, rfl⟩ := hpre
    have hbehind : Ahead text (s.skip ['{', '{', 'c']) cs := h.skip
    have hcolons : Ahead text _ _ := hbehind.skip_takeWhile decimalDigits.contains
    have hdigit : ∀ s' c cs', Ahead text s' (c :: cs') → decimalDigits.contains c = true →
        (literal [':', ':']).first text s' = none := by
      intro s' c cs' h' hc
      rw [first, ways_colons_of_digit h' hc]
      rfl
    rw [if_pos (List.prefix_append _ _), List.flatMap_singleton, List.head?_flatMap]
    refine (findSome?_counted (by decide) hbehind hdigit).trans ?_
    rw [first, ways_literal _ hcolons]
    simp only [List.cons_append, List.nil_append, opening?]
    by_cases hlen : 1 ≤ (cs.takeWhile decimalDigits.contains).length ∧
        (cs.takeWhile decimalDigits.contains).length ≤ 2
    · by_cases hcolons : [':', ':'] <+: cs.dropWhile decimalDigits.contains
      · simp [hlen, hcolons]
      · simp [hcolons]
    · simp [hlen]
  · have hnone : opening? cs = none := by
      apply opening?.eq_2
      rintro cs rfl
      exact hpre ⟨cs, rfl⟩
    rw [if_neg hpre, hnone]
    rfl

/-- **A match of the default pattern** is a separator. -/
theorem matchAt_sentenceExpr (text : Array Char) (place : ℕ) :
    sentenceExpr.matchAt text place = (separator? (text.toList.drop place)).map fun sep =>
      ⟨place, place + sep.length, []⟩ := by
  have hahead : Ahead text ⟨place, []⟩ (text.toList.drop place) := rfl
  have hfirst : sentenceExpr.first text ⟨place, []⟩
      = (separator? (text.toList.drop place)).map (Spot.skip ⟨place, []⟩) := by
    rw [sentenceExpr, first_alternation, first_endingExpr hahead, first_openingExpr hahead,
      separator?]
    cases ending? (text.toList.drop place) <;> rfl
  rw [matchAt_eq, hfirst, Option.map_map]
  rfl

end

end Scratchpad.Capitalizer
