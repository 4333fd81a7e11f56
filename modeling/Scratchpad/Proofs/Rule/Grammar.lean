import Scratchpad.Pattern.Regex
import Scratchpad.Proofs.Pattern.Find
import Scratchpad.Proofs.Pattern.First
import Scratchpad.Proofs.Replace.Between
import Scratchpad.Proofs.Rule.Segments
import Scratchpad.Replace.CompiledRule

/-!
# The grammar of rule files

The format of a rule file can be given as one regular expression, whose matches are the rules.  The
reader needs no such search, but finds the same.

* `grammarPattern`, `grammarExpr` — the regular expression, and what it means.
* `first_closing`, `first_pattern` — the preferred match, next to what the reader does.
* `matchAt_quote`, `searchFrom_grammar` — what is found at a quote, and where the next rule opens.
* **`readAll_eq_grammar`** — the reader, the regular expression and the scan of the segments agree.
-/

namespace Scratchpad.Rule

open Pattern Pattern.Expr
open Unicode (CharSet)

/-! ## The expression -/

/-- A rule file as a regular expression.  Its groups are the four parts of a rule. -/
def grammarPattern : String :=
  "(?sm)\"(.*?)\"([a-z]*)(?:\\r?\\n)?->(?:\\r?\\n)?\"(.*?)\"([a-z]*)(?:\\r?\\n)?"

/-- One character. -/
def charExpr (c : Char) : Expr := .chars (.single c)

/-- Any characters, as few as possible. -/
def anything : Expr := .repetition 0 none false (.chars .full)

/-- Flag letters, as many as possible. -/
def letters : Expr := .repetition 0 none true (.chars ⟨[(97, 122)]⟩)

/-- One line break or none. -/
def lineBreak : Expr :=
  .repetition 0 (some 1) true
    (.concat (.repetition 0 (some 1) true (charExpr '\r')) (charExpr '\n'))

/-- The replacement flags and what follows them. -/
def flagsAndRest : Expr := .concat (.capture 4 none letters) lineBreak

/-- The replacement and what follows it. -/
def replacementAndRest : Expr :=
  .concat (.capture 3 none anything) (.concat (charExpr '"') flagsAndRest)

/-- The opening quote of the replacement and what follows it. -/
def openingAndRest : Expr := .concat lineBreak (.concat (charExpr '"') replacementAndRest)

/-- The arrow and what follows it. -/
def arrowAndRest : Expr :=
  .concat lineBreak <| .concat (charExpr '-') <| .concat (charExpr '>') openingAndRest

/-- What follows the closing quote of the pattern. -/
def closingExpr : Expr := .concat (.capture 2 none letters) arrowAndRest

/-- The pattern and what follows it. -/
def patternAndRest : Expr :=
  .concat (.capture 1 none anything) (.concat (charExpr '"') closingExpr)

/-- A whole rule. -/
def grammarExpr : Expr := .concat (charExpr '"') patternAndRest

/-- The regular expression means what it is supposed to mean. -/
theorem compile_grammarPattern : Regex.compile grammarPattern = .ok (.ofExpr grammarExpr) := by
  decide +kernel

lemma grammarExpr_isPlain : grammarExpr.IsPlain := by decide

/-! ## The parts of a rule -/

section

variable {text : Array Char} {s : Spot} {c x : Char} {cs : List Char}

lemma contains_letters : (⟨[(97, 122)]⟩ : CharSet).contains = isFlagLetter := by
  funext c
  have hlow : 'a' ≤ c ↔ 97 ≤ c.toNat := Iff.rfl
  have hhigh : c ≤ 'z' ↔ c.toNat ≤ 122 := Iff.rfl
  simp only [CharSet.contains, CharSet.hasCode, Unicode.inRanges, isFlagLetter, hlow, hhigh,
    Bool.or_false]
  by_cases h : c.toNat < 97
  · simp [h]
  · simp [h]
    omega

lemma ways_charExpr_cons (h : Ahead text s (c :: cs)) :
    (charExpr x).ways text s = if c = x then [s.skip [c]] else [] := by
  simp [charExpr, ways_chars_cons h, contains_single]

lemma ways_charExpr_of_ne (h : Ahead text s cs) (hne : ∀ cs', cs ≠ x :: cs') :
    (charExpr x).ways text s = [] := by
  cases cs with
  | nil => exact ways_chars_nil h
  | cons c cs => rw [ways_charExpr_cons h, if_neg fun hc => hne cs (by rw [hc])]

lemma first_charExpr_self (b : Expr) (h : Ahead text s (x :: cs)) :
    (concat (charExpr x) b).first text s = b.first text (s.skip [x]) := by
  rw [first_concat, ways_charExpr_cons h, if_pos rfl, List.findSome?_singleton]

lemma first_charExpr_of_ne (b : Expr) (h : Ahead text s cs) (hne : ∀ cs', cs ≠ x :: cs') :
    (concat (charExpr x) b).first text s = none := by
  rw [first_concat, ways_charExpr_of_ne h hne, List.findSome?_nil]

/-- A line break is taken if there is one, and then skipped. -/
lemma ways_lineBreak (h : Ahead text s cs) : ∃ b, IsBreak b ∧ cs = b ++ dropBreak cs ∧
    lineBreak.ways text s = if b = [] then [s] else [s.skip b, s] := by
  rw [lineBreak, ways_optional, ways, ways_optional, List.flatMap_append, List.flatMap_singleton]
  unfold dropBreak
  split
  · next cs =>
    have h' : Ahead text (s.skip ['\r']) ('\n' :: cs) := Ahead.skip (w := ['\r']) h
    refine ⟨['\r', '\n'], by simp [IsBreak], rfl, ?_⟩
    simp [ways_charExpr_cons h, ways_charExpr_cons h']
  · next cs =>
    refine ⟨['\n'], by simp [IsBreak], rfl, ?_⟩
    simp [ways_charExpr_cons h]
  · next hreturn hnewline =>
    have hnl : (charExpr '\n').ways text s = [] := ways_charExpr_of_ne h hnewline
    have hcr : ((charExpr '\r').ways text s).flatMap ((charExpr '\n').ways text) = [] := by
      by_cases hc : ∃ cs', cs = '\r' :: cs'
      · obtain ⟨cs', rfl⟩ := hc
        have h' : Ahead text (s.skip ['\r']) cs' := Ahead.skip (w := ['\r']) h
        have hnone : (charExpr '\n').ways text (s.skip ['\r']) = [] :=
          ways_charExpr_of_ne h' fun ds hds => hreturn ds (by rw [hds])
        simp [ways_charExpr_cons h, hnone]
      · rw [ways_charExpr_of_ne h fun cs' hcs => hc ⟨cs', hcs⟩, List.flatMap_nil]
    exact ⟨[], by simp [IsBreak], rfl, by simp [hnl, hcr]⟩

/-- A line break is skipped in front of anything that does not begin with one. -/
lemma first_lineBreak (h : Ahead text s cs) {b : Expr}
    (hb : ∀ s' c cs', Ahead text s' (c :: cs') → c = '\r' ∨ c = '\n' → b.first text s' = none) :
    ∃ w, cs = w ++ dropBreak cs ∧ (concat lineBreak b).first text s = b.first text (s.skip w) := by
  obtain ⟨w, hw, hcs, hways⟩ := ways_lineBreak h
  refine ⟨w, hcs, ?_⟩
  rw [first_concat, hways]
  rcases hw with rfl | rfl | rfl
  · simp
  · have hnone := hb s _ _ (hcs ▸ h) (.inr rfl)
    cases hskip : b.first text (s.skip ['\n']) <;> simp [hskip, hnone]
  · have hnone := hb s _ _ (hcs ▸ h) (.inl rfl)
    cases hskip : b.first text (s.skip ['\r', '\n']) <;> simp [hskip, hnone]

/-- The replacement flags, and the line break behind the rule. -/
lemma first_flags (h : Ahead text s cs) : ∃ b,
    cs.dropWhile isFlagLetter = b ++ dropBreak (cs.dropWhile isFlagLetter) ∧
      flagsAndRest.first text s
        = some ((((s.mark 8).skip (cs.takeWhile isFlagLetter)).mark 9).skip b) := by
  have hskip := (h.mark 8).skip_takeWhile isFlagLetter
  obtain ⟨b, -, hcs, hways⟩ := ways_lineBreak (hskip.mark 9)
  have hbreak : lineBreak.first text (((s.mark 8).skip (cs.takeWhile isFlagLetter)).mark 9)
      = some ((((s.mark 8).skip (cs.takeWhile isFlagLetter)).mark 9).skip b) := by
    rw [first, hways]
    split
    · next hnil => rw [hnil, List.head?_cons, skip_nil]
    · rfl
  refine ⟨b, hcs, ?_⟩
  rw [flagsAndRest, first_concat_capture, letters, findSome?_greedy_of_isSome (h.mark _)]
  · rw [contains_letters]
    exact hbreak
  · rw [contains_letters, hbreak]
    rfl

/-- The replacement ends at the first quote. -/
lemma first_replacement (h : Ahead text s cs) :
    replacementAndRest.first text s = match cs.dropWhile (· != '"') with
      | [] => none
      | _ :: _ => flagsAndRest.first text
          ((((s.mark 6).skip (cs.takeWhile (· != '"'))).mark 7).skip ['"']) := by
  rw [replacementAndRest, first_concat_capture, anything]
  have h6 : Ahead text (s.mark 6) cs := h
  generalize s.mark 6 = t at h6
  clear h
  induction cs generalizing t with
  | nil =>
      rw [findSome?_lazy_nil h6, first_charExpr_of_ne _ (h6.mark _) (by simp)]
      rfl
  | cons c cs ih =>
      have hrest : Ahead text (t.skip [c]) cs := Ahead.skip (w := [c]) h6
      rw [findSome?_lazy_cons h6, contains_full, if_pos rfl, ih (t.skip [c]) hrest]
      by_cases hc : c = '"'
      · subst hc
        obtain ⟨b, -, hflags⟩ := first_flags (Ahead.skip (w := ['"']) (h6.mark 7))
        rw [first_charExpr_self _ (h6.mark _), hflags]
        simp [hflags]
      · rw [first_charExpr_of_ne _ (h6.mark _) fun cs' hcs => hc (List.cons.inj hcs).1]
        simp [hc]

/-- A character on this line or at the beginning of the next one. -/
lemma first_lineBreak_charExpr (h : Ahead text s cs) (hx : x ≠ '\r' ∧ x ≠ '\n') (b : Expr) :
    (∃ w ds, dropBreak cs = x :: ds ∧ cs = w ++ ds ∧
      (concat lineBreak (concat (charExpr x) b)).first text s = b.first text (s.skip w)) ∨
    ((∀ ds, dropBreak cs ≠ x :: ds) ∧
      (concat lineBreak (concat (charExpr x) b)).first text s = none) := by
  obtain ⟨w, hw, hfirst⟩ := first_lineBreak h (b := concat (charExpr x) b) fun s' c cs' hs' hc => by
    refine first_charExpr_of_ne _ hs' fun ds hds => ?_
    rw [(List.cons.inj hds).1] at hc
    exact hc.elim hx.1 hx.2
  have hskip : Ahead text (s.skip w) (dropBreak cs) := Ahead.skip (hw ▸ h)
  rw [hfirst]
  by_cases hx' : ∃ ds, dropBreak cs = x :: ds
  · obtain ⟨ds, hds⟩ := hx'
    rw [hds] at hw hskip
    refine .inl ⟨w ++ [x], ds, hds, by rw [hw]; simp, ?_⟩
    rw [first_charExpr_self _ hskip, skip_skip]
  · push Not at hx'
    exact .inr ⟨hx', first_charExpr_of_ne _ hskip hx'⟩

/-- The arrow and the opening quote of the replacement. -/
lemma first_arrow (h : Ahead text s cs) :
    (∃ body w, afterArrow? cs = some body ∧ cs = w ++ body ∧
      arrowAndRest.first text s = replacementAndRest.first text (s.skip w)) ∨
    (afterArrow? cs = none ∧ arrowAndRest.first text s = none) := by
  unfold afterArrow?
  rcases first_lineBreak_charExpr h (x := '-') (by decide)
    (.concat (charExpr '>') openingAndRest) with
    ⟨w₁, ds, hds, hcs, hfirst⟩ | ⟨hne, hfirst⟩
  · have h₁ : Ahead text (s.skip w₁) ds := Ahead.skip (hcs ▸ h)
    rw [arrowAndRest, hfirst, hds]
    by_cases harrow : ∃ es, ds = '>' :: es
    · obtain ⟨es, rfl⟩ := harrow
      rw [first_charExpr_self _ h₁]
      rcases first_lineBreak_charExpr (Ahead.skip (w := ['>']) h₁) (x := '"') (by decide)
        replacementAndRest with ⟨w₂, body, hbody, rfl, hrest⟩ | ⟨hne, hrest⟩
      · refine .inl ⟨body, w₁ ++ ['>'] ++ w₂, by simp only [hbody], by rw [hcs]; simp, ?_⟩
        rw [openingAndRest, hrest]
        simp
      · refine .inr ⟨?_, hrest⟩
        split
        · next heq =>
          cases heq
          split
          · next body heq => exact absurd heq (hne body)
          · rfl
        · rfl
    · push Not at harrow
      refine .inr ⟨?_, first_charExpr_of_ne _ h₁ harrow⟩
      split
      · next es heq => exact absurd (List.cons.inj heq).2 (harrow es)
      · rfl
  · refine .inr ⟨?_, hfirst⟩
    split
    · next ds heq => exact absurd heq (hne _)
    · rfl

/-- A flag letter is no part of an arrow. -/
lemma afterArrow?_cons_letter (hc : isFlagLetter c = true) : afterArrow? (c :: cs) = none := by
  have hdrop : dropBreak (c :: cs) = c :: cs := by
    unfold dropBreak
    split
    · next heq =>
      rw [(List.cons.inj heq).1] at hc
      exact absurd hc (by decide)
    · next heq =>
      rw [(List.cons.inj heq).1] at hc
      exact absurd hc (by decide)
    · rfl
  unfold afterArrow?
  rw [hdrop]
  split
  · next heq =>
    rw [(List.cons.inj heq).1] at hc
    exact absurd hc (by decide)
  · rfl

/-- The pattern flags are all letters that there are. -/
lemma first_closing_letters (h : Ahead text s cs) : closingExpr.first text s
    = arrowAndRest.first text (((s.mark 4).skip (cs.takeWhile isFlagLetter)).mark 5) := by
  have hletters : ∀ s' c cs', Ahead text s' (c :: cs') → (⟨[(97, 122)]⟩ : CharSet).contains c →
      arrowAndRest.first text (s'.mark 5) = none := by
    intro s' c cs' hs' hc
    rw [contains_letters] at hc
    rcases first_arrow (hs'.mark 5) with ⟨body, w, hsome, -, -⟩ | ⟨-, hnone⟩
    · rw [afterArrow?_cons_letter hc] at hsome
      cases hsome
    · exact hnone
  rw [closingExpr, first_concat_capture, letters, findSome?_greedy_of_none (h.mark _) hletters,
    contains_letters]

/-- Where the search gets to behind the closing quote of a pattern, and what it has marked there,
if the reader has read `r`. -/
structure ClosingSpot (text : Array Char) (s s' : Spot) (r : Reading) : Prop where
  rest : Ahead text s' r.rest
  patternFlags : r.patternFlags <+: text.toList.drop s.place
  marks : ∃ a₃ a₄,
    s'.marks = (9, a₄ + r.replacementFlags.length) :: (8, a₄) ::
      (7, a₃ + r.replacement.length) :: (6, a₃) ::
      (5, s.place + r.patternFlags.length) :: (4, s.place) :: s.marks ∧
    r.replacement <+: text.toList.drop a₃ ∧ r.replacementFlags <+: text.toList.drop a₄

/-- **What follows the closing quote of a pattern** is found as it is read. -/
theorem first_closing (h : Ahead text s cs) :
    (∃ r s', readClosing? cs = some r ∧ closingExpr.first text s = some s' ∧
      ClosingSpot text s s' r) ∨
    (readClosing? cs = none ∧ closingExpr.first text s = none) := by
  have h₁ := ((h.mark 4).skip_takeWhile isFlagLetter).mark 5
  unfold readClosing?
  rw [first_closing_letters h]
  rcases first_arrow h₁ with ⟨body, w, hbody, hcs, hrepl⟩ | ⟨hnone, hrepl⟩
  · have h₂ := Ahead.skip (hcs ▸ h₁)
    rw [hrepl, hbody, first_replacement h₂]
    dsimp only
    cases htail : body.dropWhile (· != '"') with
    | nil => exact .inr ⟨rfl, rfl⟩
    | cons c tail =>
        dsimp only
        obtain rfl := eq_quote_of_dropWhile htail
        generalize hu : (((s.mark 4).skip (cs.takeWhile isFlagLetter)).mark 5).skip w = u at h₂
        set v : Spot := (((u.mark 6).skip (body.takeWhile (· != '"'))).mark 7).skip ['"'] with hv
        have h₃ : Ahead text v tail := by
          refine Ahead.skip (w := ['"']) (Ahead.mark ?_ _)
          rw [List.singleton_append, ← htail]
          exact (h₂.mark 6).skip_takeWhile _
        obtain ⟨b, hb, hflags⟩ := first_flags h₃
        refine .inl ⟨_, _, rfl, hflags, ?_, ?_, u.place, v.place, ?_, ?_, ?_⟩
        · refine Ahead.skip ?_
          rw [← hb]
          exact ((h₃.mark 8).skip_takeWhile isFlagLetter).mark 9
        · rw [show text.toList.drop s.place = cs from h]
          exact List.takeWhile_prefix _
        · rw [hv, ← hu]
          rfl
        · rw [show text.toList.drop u.place = body from h₂]
          exact List.takeWhile_prefix _
        · rw [show text.toList.drop v.place = tail from h₃]
          exact List.takeWhile_prefix _
  · rw [hrepl, hnone]
    exact .inr ⟨rfl, rfl⟩

/-- **A rule behind its opening quote** is found as it is read. -/
theorem first_pattern (h : Ahead text s cs) :
    (∃ r s', readRule? cs = some r ∧ patternAndRest.first text s = some s' ∧
      ClosingSpot text ((((s.mark 2).skip r.pattern).mark 3).skip ['"']) s' r) ∨
    (readRule? cs = none ∧ patternAndRest.first text s = none) := by
  rw [patternAndRest, first_concat_capture, anything]
  have h₂ : Ahead text (s.mark 2) cs := h
  generalize s.mark 2 = t at h₂
  clear h
  induction cs generalizing t with
  | nil =>
      rw [findSome?_lazy_nil h₂, first_charExpr_of_ne _ (h₂.mark _) (by simp)]
      exact .inr ⟨rfl, rfl⟩
  | cons c cs ih =>
      have hrest : Ahead text (t.skip [c]) cs := Ahead.skip (w := [c]) h₂
      rw [findSome?_lazy_cons h₂, contains_full, if_pos rfl]
      -- What is found behind this character is found with it in the pattern.
      have hmore {r : Reading} {s' : Spot}
          (hspot : ClosingSpot text (((((t.skip [c]).skip r.pattern).mark 3).skip ['"'])) s' r) :
          ClosingSpot text ((((t.skip (c :: r.pattern)).mark 3).skip ['"'])) s'
            { r with pattern := c :: r.pattern } := by
        rw [skip_skip] at hspot
        exact ⟨hspot.rest, hspot.patternFlags, hspot.marks⟩
      by_cases hc : c = '"'
      · subst hc
        rw [first_charExpr_self _ (h₂.mark _), readRule?_cons_quote]
        rcases first_closing (Ahead.skip (w := ['"']) (h₂.mark 3)) with
          ⟨r, s', hr, hfirst, hspot⟩ | ⟨hr, hfirst⟩
        · refine .inl ⟨r, s', by rw [hr], by rw [hfirst, Option.some_or], ?_⟩
          rw [pattern_of_readClosing? hr, skip_nil]
          exact hspot
        · rw [hfirst, hr, Option.none_or]
          rcases ih (t.skip ['"']) hrest with ⟨r, s', hr, hfirst, hspot⟩ | ⟨hr, hfirst⟩
          · exact .inl ⟨_, s', by rw [hr]; rfl, hfirst, hmore hspot⟩
          · exact .inr ⟨by rw [hr]; rfl, hfirst⟩
      · rw [first_charExpr_of_ne _ (h₂.mark _) fun cs' hcs => hc (List.cons.inj hcs).1,
          readRule?_cons_of_ne hc, Option.none_or]
        rcases ih (t.skip [c]) hrest with ⟨r, s', hr, hfirst, hspot⟩ | ⟨hr, hfirst⟩
        · exact .inl ⟨_, s', by rw [hr]; rfl, hfirst, hmore hspot⟩
        · exact .inr ⟨by rw [hr]; rfl, hfirst⟩

end

/-! ## All rules -/

/-- What a group of a match holds: nothing, if it took no part. -/
def groupText (text : Array Char) (m : Match) (index : ℕ) : String :=
  .ofList (((m.group? index).map fun g => Replace.between text g.1 g.2).getD [])

/-- The rule that a match stands for. -/
def ruleOfMatch (text : Array Char) (m : Match) : Rule where
  pattern := groupText text m 1
  patternFlags := groupText text m 2
  replacement := groupText text m 3
  replacementFlags := groupText text m 4

section

variable {text : Array Char} {place : ℕ} {cs w : List Char} {c : Char}

/-- **What is found at a quote** is the rule that is read there. -/
theorem matchAt_quote (h : text.toList.drop place = '"' :: cs) :
    (∃ r m, readRule? cs = some r ∧ grammarExpr.matchAt text place = some m ∧ m.start = place ∧
      text.toList.drop m.stop = r.rest ∧ ruleOfMatch text m = r.rule) ∨
    (readRule? cs = none ∧ grammarExpr.matchAt text place = none) := by
  have h₀ : Ahead text ⟨place, []⟩ ('"' :: cs) := h
  have h₁ : Ahead text (Spot.skip ⟨place, []⟩ ['"']) cs := Ahead.skip (w := ['"']) h₀
  have hfirst : grammarExpr.matchAt text place =
      (patternAndRest.first text (Spot.skip ⟨place, []⟩ ['"'])).map
        fun s => ⟨place, s.place, s.marks⟩ := by
    rw [← first_charExpr_self _ h₀]
    rfl
  rw [hfirst]
  rcases first_pattern h₁ with ⟨r, s, hr, hs, hspot⟩ | ⟨hr, hs⟩
  · refine .inl ⟨r, ⟨place, s.place, s.marks⟩, hr, by rw [hs]; rfl, rfl, hspot.rest, ?_⟩
    obtain ⟨a₃, a₄, hmarks, hrepl, hreplFlags⟩ := hspot.marks
    have hpattern : r.pattern <+: text.toList.drop (Spot.skip ⟨place, []⟩ ['"']).place := by
      obtain ⟨p, after, r', rfl, -, rfl, -⟩ := readRule?_eq_some_iff.mp hr
      rw [show text.toList.drop _ = _ from h₁]
      exact List.prefix_append _ _
    have hg₁ := Replace.between_eq hpattern
    have hg₂ := Replace.between_eq hspot.patternFlags
    have hg₃ := Replace.between_eq hrepl
    have hg₄ := Replace.between_eq hreplFlags
    simp only [Spot.skip, Spot.mark, List.length_singleton] at hmarks hg₁ hg₂
    simp [ruleOfMatch, groupText, Match.group?, hmarks, List.lookup, Reading.rule, hg₁, hg₂, hg₃,
      hg₄]
  · exact .inr ⟨hr, by rw [hs]; rfl⟩

/-- Nothing is found elsewhere. -/
lemma matchAt_of_ne (h : ∀ cs, text.toList.drop place ≠ '"' :: cs) :
    grammarExpr.matchAt text place = none := by
  have h₀ : Ahead text ⟨place, []⟩ (text.toList.drop place) := rfl
  have hnone : grammarExpr.first text ⟨place, []⟩ = none := first_charExpr_of_ne _ h₀ h
  rw [matchAt, show (grammarExpr.ways text ⟨place, []⟩).head? = none from hnone]
  rfl

/-- What follows any quote is an end of what follows the first one. -/
lemma suffix_of_first_quote {pre pre' rest rest' : List Char} (hpre : '"' ∉ pre)
    (h : pre ++ '"' :: rest = pre' ++ '"' :: rest') : rest' <:+ rest := by
  rcases append_quote_cases h with ⟨-, rfl⟩ | ⟨u, -, rfl⟩ | ⟨u, rfl, -⟩
  · exact List.suffix_rfl
  · exact ⟨u ++ ['"'], by simp⟩
  · exact absurd (by simp) hpre

/-- **What the search finds next** is what the reader reads next. -/
theorem searchFrom_grammar (h : text.toList.drop place = cs) :
    (∃ pre rest r m, cs = pre ++ '"' :: rest ∧ '"' ∉ pre ∧ readRule? rest = some r ∧
      searchFrom grammarExpr.program text place = some m ∧ m.start = place + pre.length ∧
      text.toList.drop m.stop = r.rest ∧ ruleOfMatch text m = r.rule) ∨
    ((∀ pre rest, cs = pre ++ '"' :: rest → readRule? rest = none) ∧
      searchFrom grammarExpr.program text place = none) := by
  rw [searchFrom_program grammarExpr_isPlain]
  by_cases hnone : ∀ pre rest, cs = pre ++ '"' :: rest → readRule? rest = none
  · refine .inr ⟨hnone, search_eq_none_iff.mpr fun p hp _ => ?_⟩
    by_cases hquote : ∃ ds, text.toList.drop p = '"' :: ds
    · obtain ⟨ds, hds⟩ := hquote
      have hcs : cs = cs.take (p - place) ++ '"' :: ds := by
        rw [← hds, ← h, ← Nat.add_sub_cancel' hp, ← List.drop_drop, Nat.add_sub_cancel_left,
          List.take_append_drop]
      rcases matchAt_quote hds with ⟨r, m, hr, -⟩ | ⟨-, hmatch⟩
      · rw [hnone _ _ hcs] at hr
        cases hr
      · exact hmatch
    · push Not at hquote
      exact matchAt_of_ne hquote
  · push Not at hnone
    obtain ⟨pre', rest', hcs', hread⟩ := hnone
    obtain ⟨pre, rest, hpre, hcs⟩ := exists_eq_append_quote (show '"' ∈ cs by rw [hcs']; simp)
    have hdrop (k : ℕ) : text.toList.drop (place + k) = (pre ++ '"' :: rest).drop k := by
      rw [← List.drop_drop, h, hcs]
    have hat : text.toList.drop (place + pre.length) = '"' :: rest := by
      rw [hdrop, List.drop_left]
    have hsize : place + pre.length ≤ text.size := by
      have := congrArg List.length hat
      simp only [List.length_drop, Array.length_toList, List.length_cons] at this
      omega
    rcases matchAt_quote hat with ⟨r, m, hr, hm, hstart, hstop, hrule⟩ | ⟨hr, -⟩
    · refine .inl ⟨pre, rest, r, m, hcs, hpre, hr, search_eq_some_iff.mpr
        ⟨place + pre.length, by omega, hsize, hm, fun q hq hlt => ?_⟩, hstart, hstop, hrule⟩
      -- Every place before is that of a character of `pre`, which is no quote.
      obtain ⟨k, rfl⟩ : ∃ k, q = place + k := ⟨q - place, by omega⟩
      refine matchAt_of_ne fun ds hds => hpre ?_
      have hk : k < pre.length := by omega
      rw [hdrop, List.drop_append_of_le_length hk.le, List.drop_eq_getElem_cons hk,
        List.cons_append] at hds
      rw [← (List.cons.inj hds).1]
      exact List.getElem_mem hk
    · exact absurd (readRule?_eq_none_of_suffix hr (suffix_of_first_quote hpre (hcs ▸ hcs'))) hread

/-- If no rule can be read behind any quote, nothing is read. -/
lemma readRules_eq_nil (h : ∀ pre rest, cs = pre ++ '"' :: rest → readRule? rest = none) :
    readRules cs = [] := by
  by_cases hq : '"' ∈ cs
  · obtain ⟨pre, rest, hpre, rfl⟩ := exists_eq_append_quote hq
    rw [readRules_append hpre, readRules_quote, h pre rest rfl]
  · have := readRules_append hq []
    rw [List.append_nil] at this
    rw [this, readRules]

/-- **The matches from a place on** are the rules that are read from there. -/
theorem map_matchesFrom {fuel : ℕ} {last : Option ℕ} (h : text.toList.drop place = cs)
    (hfuel : cs.length < fuel) :
    (matchesFrom grammarExpr.program text fuel place last).map (ruleOfMatch text)
      = readRules cs := by
  induction fuel generalizing place last cs with
  | zero => omega
  | succ fuel ih =>
      rw [matchesFrom]
      rcases searchFrom_grammar h with
        ⟨pre, rest, r, m, rfl, hpre, hr, hm, hstart, hstop, hrule⟩ | ⟨hnone, hm⟩
      · have hlen := length_rest_readRule? hr
        have hempty : m.isEmpty = false := by
          have hat : text.toList.drop m.start = '"' :: rest := by
            rw [hstart, ← List.drop_drop, h, List.drop_left]
          rw [Match.isEmpty, beq_eq_false_iff_ne]
          intro heq
          rw [heq, hstop] at hat
          rw [hat, List.length_cons] at hlen
          omega
        rw [hm]
        simp only [hempty, Bool.false_and, Bool.false_eq_true, if_false, List.map_cons]
        rw [List.length_append, List.length_cons] at hfuel
        rw [readRules_append hpre, readRules_quote, hr, hrule, ih hstop (by omega)]
      · rw [hm, readRules_eq_nil hnone]
        rfl

/-! ## Where rules open -/

lemma drop_eq_cons {p : ℕ} (h : text.toList[p]? = some c) :
    text.toList.drop p = c :: text.toList.drop (p + 1) := by
  obtain ⟨hlt, rfl⟩ := List.getElem?_eq_some_iff.mp h
  exact List.drop_eq_getElem_cons hlt

/-- If no rule can be completed from a quote, none can be from a later place. -/
lemma matchAt_eq_none_of_le {p q : ℕ} (hpq : p ≤ q) (hp : text.toList[p]? = some '"')
    (hnone : grammarExpr.matchAt text p = none) : grammarExpr.matchAt text q = none := by
  rcases hpq.eq_or_lt with rfl | hlt
  · exact hnone
  rcases matchAt_quote (drop_eq_cons hp) with ⟨r, m, -, hm, -⟩ | ⟨hread, -⟩
  · rw [hnone] at hm
    cases hm
  · by_cases hquote : ∃ ds, text.toList.drop q = '"' :: ds
    · obtain ⟨ds, hds⟩ := hquote
      have hsuffix : ds <:+ text.toList.drop (p + 1) := by
        refine List.IsSuffix.trans (List.suffix_cons '"' ds) ?_
        rw [← hds, show q = p + 1 + (q - (p + 1)) by omega, ← List.drop_drop]
        exact List.drop_suffix _ _
      rcases matchAt_quote hds with ⟨r, m, hr, -⟩ | ⟨-, hmatch⟩
      · rw [readRule?_eq_none_of_suffix hread hsuffix] at hr
        cases hr
      · exact hmatch
    · push Not at hquote
      exact matchAt_of_ne hquote

/-- A rule opens at the first quote from the place where the search begins. -/
lemma start_of_searchFrom {m : Match} (h : searchFrom grammarExpr.program text place = some m) :
    place ≤ m.start ∧ text.toList[m.start]? = some '"' ∧
      ∀ q, place ≤ q → q < m.start → text.toList[q]? ≠ some '"' := by
  rw [searchFrom_program grammarExpr_isPlain] at h
  obtain ⟨p, hle, -, hm, hbefore⟩ := search_eq_some_iff.mp h
  have hstart := start_of_matchAt hm
  subst hstart
  refine ⟨hle, ?_, fun q hq hlt hquote => ?_⟩
  · by_contra hne
    rw [matchAt_of_ne fun cs hcs => hne (by rw [← List.head?_drop, hcs, List.head?_cons])] at hm
    cases hm
  · rw [matchAt_eq_none_of_le hlt.le hquote (hbefore q hq hlt)] at hm
    cases hm

end

/-- **A rule file is read exactly as its grammar says.**  The regular expression and the scan of
the segments between quotes give the rules that are read.  A rule opens at the first quote behind
the rule before it, and where none can be completed from a quote, none can from a later one. -/
theorem readAll_eq_grammar :
    Regex.compile grammarPattern = .ok (.ofExpr grammarExpr) ∧ ∀ text : String,
      readAll text = scan text ∧
      ((Regex.ofExpr grammarExpr).find text.toList.toArray).map
        (ruleOfMatch text.toList.toArray) = scan text ∧
      (∀ place m, searchFrom grammarExpr.program text.toList.toArray place = some m →
        place ≤ m.start ∧ text.toList[m.start]? = some '"' ∧
        ∀ q, place ≤ q → q < m.start → text.toList[q]? ≠ some '"') ∧
      (∀ p q, p ≤ q → text.toList[p]? = some '"' →
        grammarExpr.matchAt text.toList.toArray p = none →
        grammarExpr.matchAt text.toList.toArray q = none) := by
  refine ⟨compile_grammarPattern, fun text => ⟨readAll_eq_scan text, ?_, ?_, ?_⟩⟩
  · have hall : text.toList.toArray.toList.drop 0 = text.toList := rfl
    rw [← readAll_eq_scan, readAll]
    exact map_matchesFrom hall (by simp)
  · exact fun place m h => start_of_searchFrom h
  · exact fun p q hpq hp hnone => matchAt_eq_none_of_le hpq hp hnone

/-- A quote in the pattern does not end it, and no rule is completed from the quotes at the end. -/
theorem readAll_eq_grammar_unfinished :
    let text := "#\"a\"b\"->\"c\"i\n\"d\" \"e"
    let m : Match := ⟨1, 13, [(9, 12), (8, 11), (7, 10), (6, 9), (5, 6), (4, 6), (3, 5), (2, 2)]⟩
    (searchFrom grammarExpr.program text.toList.toArray 0 = some m ∧
      0 ≤ m.start ∧ text.toList[m.start]? = some '"' ∧
      ∀ q, 0 ≤ q → q < m.start → text.toList[q]? ≠ some '"') ∧
    (text.toList[13]? = some '"' ∧
      grammarExpr.matchAt text.toList.toArray 13 = none ∧
      grammarExpr.matchAt text.toList.toArray 17 = none) := by
  intro text m
  obtain ⟨-, -, hopen, hlater⟩ := readAll_eq_grammar.2 text
  have hfound : searchFrom grammarExpr.program text.toList.toArray 0 = some m := by decide +kernel
  have hquote : text.toList[13]? = some '"' := by decide +kernel
  have hnone : grammarExpr.matchAt text.toList.toArray 13 = none := by decide +kernel
  exact ⟨⟨hfound, hopen 0 m hfound⟩, hquote, hnone, hlater 13 17 (by decide) hquote hnone⟩

end Scratchpad.Rule
