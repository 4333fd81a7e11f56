import Scratchpad.Pattern.Regex
import Scratchpad.Proofs.Pattern.Words

/-!
# Reading the pattern of whole words

Word characters have no meaning of their own in a pattern, and a bar between words separates
branches.  Hence the pattern that looks for some words as a whole means one of these words, between
word boundaries.

* `Reader.run_word` — a word is read character by character.
* `Reader.run_words` — words with bars between them are read up to the end of the group around them.
* `Sequence.toExpr_toTree`, `Sequence.tooDeep?_toTree` — what has been read in sequence.
* `readTree_words` — words between word boundaries, behind the default flags.
* `Expr.footprint_literal_le` — how much memory a literal text takes at most.
* **`compile_words`** — the pattern of whole words means these words.
-/

namespace Scratchpad.Pattern

open Text (IsWord)
open Unicode (isWordChar)

/-! ## Reading a word -/

/-- The position behind some characters. -/
def Position.afterAll (p : Position) (w : List Char) : Position := w.foldl Position.after p

/-- A character that stands for itself. -/
def literalItem (p : Position) (c : Char) : Tree := .atom (.literal ⟨⟨p, p.after c⟩, c, false⟩)

/-- The characters of a text, each standing for itself. -/
def literalItems : Position → List Char → List Tree
  | _, [] => []
  | p, c :: w => literalItem p c :: literalItems (p.after c) w

/-- A sign of the syntax is no word character. -/
lemma ne_of_isWordChar {c d : Char} (hc : isWordChar c = true) (hd : isWordChar d = false) :
    c ≠ d := by
  rintro rfl
  rw [hc] at hd
  cases hd

lemma readAtom_word {c : Char} (hc : isWordChar c = true) (cs : List Char) (p : Position) :
    readAtom false ⟨c :: cs, p⟩ = .ok (.literal ⟨⟨p, p.after c⟩, c, false⟩, ⟨cs, p.after c⟩) := by
  unfold readAtom
  split
  · next heq => exact absurd (List.cons.inj heq).1 (ne_of_isWordChar hc (by decide))
  · next heq => exact absurd (List.cons.inj heq).1 (ne_of_isWordChar hc (by decide))
  · next heq => exact absurd (List.cons.inj heq).1 (ne_of_isWordChar hc (by decide))
  · next heq => exact absurd (List.cons.inj heq).1 (ne_of_isWordChar hc (by decide))
  · next heq =>
    cases heq
    rfl
  · next heq => cases heq

namespace Reader

variable {c : Char} {w cs : List Char} {p start : Position} {captures fuel : ℕ}
  {names : List (String × Span)} {frames : List Frame} {items : List Tree}

lemma step_word (hc : isWordChar c = true) :
    step ⟨⟨c :: cs, p⟩, false, captures, names, frames, ⟨start, items⟩⟩
      = .ok ⟨⟨cs, p.after c⟩, false, captures, names, frames,
          ⟨start, literalItem p c :: items⟩⟩ := by
  have hne : ∀ {d : Char}, isWordChar d = false → c ≠ d := ne_of_isWordChar hc
  have hrepeat : ¬ (c = '?' || c = '*' || c = '+' || c = '\x7b') = true := by
    simp [hne (d := '?') (by decide), hne (d := '*') (by decide), hne (d := '+') (by decide),
      hne (d := '\x7b') (by decide)]
  simp only [step, Cursor.skipSpace, Bool.false_eq_true, if_false]
  rw [if_neg (hne (by decide)), if_neg (hne (by decide)), if_neg (hne (by decide)),
    if_neg (hne (by decide)), if_neg hrepeat, readAtom_word hc]
  rfl

/-- **A word is read** character by character. -/
lemma run_word (hw : ∀ c ∈ w, isWordChar c = true) :
    run (w.length + fuel) ⟨⟨w ++ cs, p⟩, false, captures, names, frames, ⟨start, items⟩⟩
      = run fuel ⟨⟨cs, p.afterAll w⟩, false, captures, names, frames,
          ⟨start, (literalItems p w).reverse ++ items⟩⟩ := by
  induction w generalizing p items with
  | nil => simp [Position.afterAll, literalItems]
  | cons c w ih =>
      have hrest : ∀ d ∈ w, isWordChar d = true := fun d hd => hw d (List.mem_cons_of_mem c hd)
      have hfirst : isWordChar c = true := hw c List.mem_cons_self
      rw [List.length_cons, Nat.succ_add, run, List.cons_append, step_word hfirst]
      simp [Cursor.atEnd, ih hrest, literalItems, Position.afterAll]

end Reader

/-! ## Reading words with bars between them -/

/-- The tree of a word that begins at `p`. -/
def wordTree (p : Position) (w : List Char) : Tree :=
  Sequence.toTree ⟨p, (literalItems p w).reverse⟩ (p.afterAll w)

/-- Words with a bar between them. -/
def barred (ws : List (List Char)) : List Char := ['|'].intercalate ws

/-- The trees of words with bars between them, the first of which begins at `p`. -/
def wordTrees : Position → List (List Char) → List Tree
  | _, [] => []
  | p, w :: ws => wordTree p w :: wordTrees ((p.afterAll w).after '|') ws

/-- Branches as one tree: a single branch stands for itself. -/
def alternatives (start stop : Position) : List Tree → Tree
  | [t] => t
  | ts => .alternation ⟨start, stop⟩ ts

lemma alternatives_of_two_le {start stop : Position} {ts : List Tree} (h : 2 ≤ ts.length) :
    alternatives start stop ts = .alternation ⟨start, stop⟩ ts := by
  match ts, h with
  | _ :: _ :: _, _ => rfl

/-- The frames of an alternation with the branches read so far, the last one first.  Before the
first bar there are none of its own. -/
def withBranches (start : Position) (done : List Tree) (frames : List Frame) : List Frame :=
  match done with
  | [] => frames
  | done => .branches start done :: frames

lemma barred_cons_cons (v w : List Char) (ws : List (List Char)) :
    barred (v :: w :: ws) = v ++ '|' :: barred (w :: ws) := by
  rw [barred, List.intercalate_cons_cons, List.append_assoc]
  rfl

lemma Position.afterAll_append (p : Position) (v w : List Char) :
    p.afterAll (v ++ w) = (p.afterAll v).afterAll w := List.foldl_append

namespace Reader

variable {cs : List Char} {ws : List (List Char)} {p q start : Position} {captures fuel : ℕ}
  {names : List (String × Span)} {frames : List Frame} {items : List Tree} {done : List Tree}
  {outer : Sequence} {paren : Span} {kind : GroupKind} {extended : Bool}

/-- A bar ends a branch.  The first branch begins where the alternation does. -/
lemma run_bar (hstart : done = [] → q = start) :
    run (fuel + 1) ⟨⟨'|' :: cs, p⟩, false, captures, names,
        withBranches start done (.group outer paren kind extended :: frames), ⟨q, items⟩⟩
      = run fuel ⟨⟨cs, p.after '|'⟩, false, captures, names,
          withBranches start (Sequence.toTree ⟨q, items⟩ p :: done)
            (.group outer paren kind extended :: frames), ⟨p.after '|', []⟩⟩ := by
  cases done with
  | nil =>
      obtain rfl := hstart rfl
      rfl
  | cons t done => rfl

/-- A parenthesis ends the last branch and the group around the alternation. -/
lemma run_close :
    run (fuel + 1) ⟨⟨')' :: cs, p⟩, false, captures, names,
        withBranches start done (.group outer paren kind extended :: frames), ⟨q, items⟩⟩
      = run fuel ⟨⟨cs, p.after ')'⟩, extended, captures, names, frames,
          outer.push (.group ⟨paren.start, p.after ')'⟩ kind
            (alternatives start p (done.reverse ++ [Sequence.toTree ⟨q, items⟩ p])))⟩ := by
  cases done with
  | nil => rfl
  | cons t done =>
      have hreverse : (t :: done).reverse ++ [Sequence.toTree ⟨q, items⟩ p]
          = (Sequence.toTree ⟨q, items⟩ p :: t :: done).reverse := List.reverse_cons.symm
      rw [hreverse, alternatives_of_two_le (by simp)]
      rfl

/-- **Words with bars between them are read**, up to the end of the group around them. -/
lemma run_words (hne : ws ≠ []) (hws : ∀ w ∈ ws, ∀ c ∈ w, isWordChar c = true)
    (hstart : done = [] → p = start) :
    run ((barred ws).length + (fuel + 1)) ⟨⟨barred ws ++ ')' :: cs, p⟩, false, captures, names,
        withBranches start done (.group outer paren kind extended :: frames), ⟨p, []⟩⟩
      = run fuel ⟨⟨cs, (p.afterAll (barred ws)).after ')'⟩, extended, captures, names, frames,
          outer.push (.group ⟨paren.start, (p.afterAll (barred ws)).after ')'⟩ kind
            (alternatives start (p.afterAll (barred ws)) (done.reverse ++ wordTrees p ws)))⟩ := by
  induction ws generalizing p done with
  | nil => exact absurd rfl hne
  | cons w ws ih =>
      have hw := hws w List.mem_cons_self
      cases ws with
      | nil =>
          have hone : barred [w] = w := List.intercalate_singleton
          rw [hone, run_word hw, List.append_nil, run_close]
          rfl
      | cons v ws =>
          have hlength : (barred (w :: v :: ws)).length + (fuel + 1)
              = w.length + ((barred (v :: ws)).length + (fuel + 1) + 1) := by
            rw [barred_cons_cons, List.length_append, List.length_cons]
            omega
          rw [hlength, barred_cons_cons, List.append_assoc, run_word hw, List.append_nil,
            List.cons_append, run_bar hstart,
            ih (List.cons_ne_nil v ws) (fun u hu => hws u (List.mem_cons_of_mem w hu)) (by simp),
            Position.afterAll_append]
          simp only [List.reverse_cons, List.append_assoc, List.singleton_append]
          rfl

end Reader

/-! ## What has been read -/

variable {s s' : Settings} {es : List Expr} {q : Sequence} {depth : ℕ}

lemma Expr.ofList_singleton (e : Expr) : ofList [e] = e := by
  cases e <;> rfl

/-- A sequence means its items, one after the other. -/
lemma Sequence.toExpr_toTree (h : exprsOf s q.items.reverse = .ok (es, s')) (stop : Position) :
    (q.toTree stop).toExpr s = .ok (.ofList es, s') := by
  unfold toTree
  split
  · next hitems =>
    rw [hitems] at h
    cases h
    rfl
  · next item hitems =>
    -- a single item stands for itself, and means what a sequence of one would
    rw [hitems, List.reverse_singleton, exprsOf] at h
    cases hitem : item.toExpr s with
    | error e =>
        rw [hitem] at h
        cases h
    | ok r =>
        rw [hitem] at h
        cases h
        rw [Expr.ofList_singleton]
  · next =>
    rw [Tree.toExpr, h]
    rfl

lemma firstTooDeep?_eq_none {ts : List Tree} (h : ∀ t ∈ ts, t.tooDeep? depth = none) :
    firstTooDeep? depth ts = none := by
  induction ts with
  | nil => rfl
  | cons t ts ih =>
      rw [firstTooDeep?, h t List.mem_cons_self, Option.none_or]
      exact ih fun u hu => h u (List.mem_cons_of_mem t hu)

/-- A sequence of items that are not nested may stand at any depth that is allowed. -/
lemma Sequence.tooDeep?_toTree (hdepth : depth < maxDepth)
    (h : ∀ t ∈ q.items, ∀ n, t.tooDeep? n = none) (stop : Position) :
    (q.toTree stop).tooDeep? depth = none := by
  unfold toTree
  split
  · rfl
  · next item hitems => exact h item (by rw [hitems]; exact List.mem_singleton_self item) depth
  · next =>
    rw [Tree.tooDeep?, unlessDeep, if_neg (not_le.mpr hdepth)]
    exact firstTooDeep?_eq_none fun t ht => h t (List.mem_reverse.mp ht) _

/-- A text that stands for itself means itself. -/
lemma exprsOf_literalItems (hcase : s.ignoreCase = false) (hunicode : s.unicode = true)
    (p : Position) (w : List Char) :
    exprsOf s (literalItems p w) = .ok (w.map fun c => .chars (.single c), s) := by
  induction w generalizing p with
  | nil => rfl
  | cons c w ih =>
      simp [literalItems, literalItem, exprsOf, Tree.toExpr, Atom.toExpr, ih, hcase, hunicode,
        Settings.fold, bind, Except.bind, pure, Except.pure]

lemma tooDeep?_of_mem_literalItems {p : Position} {w : List Char} :
    ∀ t ∈ literalItems p w, ∀ n, t.tooDeep? n = none := by
  induction w generalizing p with
  | nil => simp [literalItems]
  | cons c w ih =>
      intro t ht n
      rcases List.mem_cons.mp ht with rfl | ht
      · rfl
      · exact ih t ht n

/-! ## Alternatives that have been read -/

lemma tooDeep?_wordTree (hdepth : depth < maxDepth) (p : Position) (w : List Char) :
    (wordTree p w).tooDeep? depth = none :=
  Sequence.tooDeep?_toTree hdepth
    (fun t ht => tooDeep?_of_mem_literalItems t (List.mem_reverse.mp ht)) _

lemma exists_of_mem_wordTrees {p : Position} {ws : List (List Char)} {t : Tree}
    (ht : t ∈ wordTrees p ws) : ∃ q w, t = wordTree q w := by
  induction ws generalizing p with
  | nil => simp [wordTrees] at ht
  | cons w ws ih =>
      rcases List.mem_cons.mp ht with rfl | ht
      · exact ⟨p, w, rfl⟩
      · exact ih ht

/-- Words take two levels: the branches of an alternation, and the characters in sequence. -/
lemma tooDeep?_alternatives (hdepth : depth + 1 < maxDepth) (start stop p : Position)
    (ws : List (List Char)) : (alternatives start stop (wordTrees p ws)).tooDeep? depth = none := by
  have hwords : ∀ n, n < maxDepth → ∀ t ∈ wordTrees p ws, t.tooDeep? n = none := by
    intro n hn t ht
    obtain ⟨q, w, rfl⟩ := exists_of_mem_wordTrees ht
    exact tooDeep?_wordTree hn q w
  have hlt : depth < maxDepth := Nat.lt_of_succ_lt hdepth
  unfold alternatives
  split
  · next t htrees => exact hwords depth hlt t (by rw [htrees]; exact List.mem_singleton_self t)
  · rw [Tree.tooDeep?, unlessDeep, if_neg (not_le.mpr hlt)]
    exact firstTooDeep?_eq_none (hwords _ hdepth)

section

variable (hcase : s.ignoreCase = false) (hunicode : s.unicode = true)
include hcase hunicode

lemma toExpr_wordTree (p : Position) (w : List Char) :
    (wordTree p w).toExpr s = .ok (.literal w, s) := by
  refine Sequence.toExpr_toTree ?_ _
  rw [List.reverse_reverse]
  exact exprsOf_literalItems hcase hunicode p w

lemma exprsOf_wordTrees (p : Position) (ws : List (List Char)) :
    exprsOf s (wordTrees p ws) = .ok (ws.map .literal, s) := by
  induction ws generalizing p with
  | nil => rfl
  | cons w ws ih =>
      rw [wordTrees, exprsOf, toExpr_wordTree hcase hunicode]
      simp [bind, Except.bind, pure, Except.pure, ih]

/-- Words with bars between them mean one of these words. -/
lemma toExpr_alternatives (start stop p : Position) (ws : List (List Char)) :
    (alternatives start stop (wordTrees p ws)).toExpr s
      = .ok (.oneOf (ws.map .literal), s) := by
  have hwords := exprsOf_wordTrees hcase hunicode p ws
  unfold alternatives
  split
  · next t htrees =>
    obtain ⟨w, rfl⟩ : ∃ w, ws = [w] := by
      match ws, htrees with
      | [w], _ => exact ⟨w, rfl⟩
    cases htrees
    exact toExpr_wordTree hcase hunicode p w
  · rw [Tree.toExpr, hwords]
    rfl

end

/-! ## Whole words -/

namespace Expr

lemma footprint_single_le (c : Char) : (chars (.single c)).footprint ≤ 4 * stateSize := by
  have hbytes : (Unicode.encode c.toNat).length ≤ 4 := by
    unfold Unicode.encode
    split_ifs <;> simp
  have hset : (chars (.single c)).footprint = stateSize * (Unicode.encode c.toNat).length :=
    if_pos rfl
  rw [hset, Nat.mul_comm]
  exact Nat.mul_le_mul_right stateSize hbytes

lemma footprint_seq_le (a b : Expr) : (seq a b).footprint ≤ a.footprint + b.footprint := by
  unfold seq
  split
  · exact Nat.le_add_left _ _
  · exact Nat.le_add_right _ _
  · exact Nat.le_refl _

/-- A literal text takes a state for every byte. -/
lemma footprint_literal_le (w : List Char) :
    (literal w).footprint ≤ 4 * stateSize * w.length + stateSize := by
  induction w with
  | nil => simp [literal, ofList, footprint]
  | cons c w ih =>
      have hchar := footprint_single_le c
      have hseq := footprint_seq_le (chars (.single c)) (literal w)
      have hcons : literal (c :: w) = seq (chars (.single c)) (literal w) := rfl
      rw [hcons, List.length_cons, Nat.mul_succ]
      omega

/-- A bar takes less than a character can take. -/
lemma footprint_oneOf_literal_le {ws : List (List Char)} (hne : ws ≠ []) :
    (oneOf (ws.map literal)).footprint ≤ 4 * stateSize * (barred ws).length + stateSize := by
  induction ws with
  | nil => exact absurd rfl hne
  | cons w ws ih =>
      cases ws with
      | nil =>
          have hone : barred [w] = w := List.intercalate_singleton
          rw [hone]
          exact footprint_literal_le w
      | cons v ws =>
          have hword := footprint_literal_le w
          have hrest := ih (List.cons_ne_nil v ws)
          have halternation : (oneOf ((w :: v :: ws).map literal)).footprint
              = (literal w).footprint + (oneOf ((v :: ws).map literal)).footprint + choiceSize 2
                + stateSize := rfl
          rw [halternation, barred_cons_cons, List.length_append, List.length_cons]
          simp only [choiceSize, stateSize] at *
          omega

/-- Words of ordinary length are not too large. -/
lemma tooLarge_wordsExpr {ws : List (List Char)} (hne : ws ≠ [])
    (hlength : (barred ws).length ≤ 80000) : (wordsExpr ws).tooLarge = false := by
  have hwords := footprint_oneOf_literal_le hne
  simp only [stateSize] at hwords
  have hall : (wordsExpr ws).footprint ≤ maxFootprint := by
    simp only [wordsExpr, boundary, footprint, stateSize, maxFootprint]
    omega
  simpa [tooLarge] using hall

end Expr

/-- The position behind some ASCII characters of the first line. -/
def Position.ascii (n : ℕ) : Position := ⟨n, 1, n + 1⟩

/-- What is read before the words. -/
def Sequence.beforeWord : Sequence :=
  ⟨.first, [.atom (.assertion ⟨.ascii 4, .ascii 6⟩ .wordBoundary),
    .flags ⟨.first, .ascii 4⟩ [⟨⟨.ascii 2, .ascii 3⟩, some .multiLine⟩]]⟩

/-- The reader where the words begin. -/
def Reader.opened (cs : List Char) : Reader :=
  ⟨⟨cs, .ascii 9⟩, false, 0, [], [.group .beforeWord ⟨.ascii 6, .ascii 7⟩ (.flagged []) false],
    ⟨.ascii 9, []⟩⟩

/-- What opens the pattern is read in three steps, whatever follows it. -/
lemma Reader.run_opened (cs : List Char) (fuel : ℕ) :
    (ofPattern ("(?m)\\b(?:".toList ++ cs)).run (fuel + 3) = (opened cs).run fuel := rfl

/-- The pattern of whole words as a tree: flags, a boundary, the tree of the words, which end at
`p`, and a boundary. -/
def wholeWord (p : Position) (words : Tree) : Tree :=
  let behind := p.after ')'
  let stop := (behind.after '\\').after 'b'
  .concat ⟨.first, stop⟩ (Sequence.beforeWord.items.reverse ++
    [.group ⟨.ascii 6, behind⟩ (.flagged []) words,
      .atom (.assertion ⟨behind, stop⟩ .wordBoundary)])

/-- The tree of words with bars between them, where these stand in the pattern. -/
def wordsTree (ws : List (List Char)) : Tree :=
  alternatives (.ascii 9) (Position.afterAll (.ascii 9) (barred ws)) (wordTrees (.ascii 9) ws)

/-- The words are read in the group that has been opened. -/
lemma Reader.run_opened_words {ws : List (List Char)} (hne : ws ≠ [])
    (hws : ∀ w ∈ ws, ∀ c ∈ w, isWordChar c = true) (cs : List Char) (fuel : ℕ) :
    let behind := (Position.afterAll (.ascii 9) (barred ws)).after ')'
    (opened (barred ws ++ ')' :: cs)).run ((barred ws).length + (fuel + 1))
      = run fuel ⟨⟨cs, behind⟩, false, 0, [], [],
          Sequence.beforeWord.push (.group ⟨.ascii 6, behind⟩ (.flagged []) (wordsTree ws))⟩ := by
  intro behind
  have hwords : run ((barred ws).length + (fuel + 1)) ⟨⟨barred ws ++ ')' :: cs, .ascii 9⟩, false, 0,
      [], withBranches (.ascii 9) []
        [.group .beforeWord ⟨.ascii 6, .ascii 7⟩ (.flagged []) false], ⟨.ascii 9, []⟩⟩ = _ :=
    run_words hne hws fun _ => rfl
  exact hwords

/-- **The pattern of whole words is read** as what it looks like. -/
lemma readTree_words {ws : List (List Char)} (hne : ws ≠ [])
    (hws : ∀ w ∈ ws, ∀ c ∈ w, isWordChar c = true) :
    readTree ("(?m)\\b(?:".toList ++ (barred ws ++ ")\\b".toList))
      = .ok (wholeWord (Position.afterAll (.ascii 9) (barred ws)) (wordsTree ws)) := by
  have hlength : ("(?m)\\b(?:".toList ++ (barred ws ++ ")\\b".toList)).length
      = (barred ws).length + (8 + 1) + 3 := by
    simp
  have hclosing : ")\\b".toList = ')' :: "\\b".toList := rfl
  have hrun := Reader.run_opened (barred ws ++ ")\\b".toList) ((barred ws).length + (8 + 1))
  rw [hclosing, Reader.run_opened_words hne hws] at hrun
  rw [readTree, hlength, hclosing, hrun]
  rfl

lemma checkDepth_words (p : Position) (ws : List (List Char)) :
    (wholeWord p (wordsTree ws)).checkDepth = .ok () := by
  have hwords : (wordsTree ws).tooDeep? 2 = none := tooDeep?_alternatives (by decide) _ _ _ ws
  have hwhole : (wholeWord p (wordsTree ws)).tooDeep? 0 = none := by
    simp [wholeWord, Sequence.beforeWord, Tree.tooDeep?, firstTooDeep?, unlessDeep, maxDepth,
      hwords]
  rw [Tree.checkDepth, hwhole]

lemma toExpr_words (p : Position) (ws : List (List Char)) :
    (wholeWord p (wordsTree ws)).toExpr {}
      = .ok (.ofList [.empty, .boundary, .oneOf (ws.map .literal), .boundary],
          { multiLine := true }) := by
  have hwords : (wordsTree ws).toExpr { multiLine := true }
      = .ok (.oneOf (ws.map .literal), { multiLine := true }) :=
    toExpr_alternatives rfl rfl _ _ _ ws
  simp [wholeWord, Sequence.beforeWord, Tree.toExpr, exprsOf, bind, Except.bind, pure, Except.pure,
    Settings.apply, Settings.set, GroupKind.settings, GroupKind.wrap, hwords, Atom.toExpr,
    Assertion.toLook, Expr.boundary]

lemma Expr.literal_ne_empty {w : List Char} (hw : w ≠ []) : literal w ≠ .empty := by
  obtain ⟨c, w, rfl⟩ := List.exists_cons_of_ne_nil hw
  have hcons : literal (c :: w) = seq (chars (.single c)) (literal w) := rfl
  rw [hcons]
  cases literal w <;> simp [seq]

lemma Expr.oneOf_literal_ne_empty {ws : List (List Char)} (hws : ∀ w ∈ ws, w ≠ []) :
    oneOf (ws.map literal) ≠ .empty := by
  match ws with
  | [] => exact nofun
  | [w] => exact literal_ne_empty (hws w (List.mem_singleton_self w))
  | _ :: _ :: _ => exact nofun

/-- Words with boundaries on both sides. -/
lemma Expr.ofList_boundaries {ws : List (List Char)} (hws : ∀ w ∈ ws, w ≠ []) :
    ofList [.empty, boundary, oneOf (ws.map literal), boundary] = wordsExpr ws := by
  have hwords : seq (oneOf (ws.map literal)) boundary
      = .concat (oneOf (ws.map literal)) boundary := by
    have hne := oneOf_literal_ne_empty hws
    generalize oneOf (ws.map literal) = e at hne
    cases e with
    | empty => exact absurd rfl hne
    | _ => rfl
  have hlist : ofList [.empty, boundary, oneOf (ws.map literal), boundary]
      = seq boundary (seq (oneOf (ws.map literal)) boundary) := rfl
  rw [hlist, hwords]
  rfl

/-- **The pattern of whole words means these words**, between word boundaries.  Its length is all
that may stand against it. -/
theorem compile_words {ws : List (List Char)} (hne : ws ≠ []) (hws : ∀ w ∈ ws, IsWord w) :
    Regex.compile (.ofList ("(?m)\\b(?:".toList ++ (barred ws ++ ")\\b".toList)))
      = if (Expr.wordsExpr ws).tooLarge then .error .tooLarge
        else .ok (.ofExpr (.wordsExpr ws)) := by
  have hmeaning : Regex.meaning ("(?m)\\b(?:".toList ++ (barred ws ++ ")\\b".toList))
      = .ok (.wordsExpr ws) := by
    rw [Regex.meaning, readTree_words hne fun w hw => (hws w hw).2,
      ← Expr.ofList_boundaries fun w hw => (hws w hw).1]
    simp [bind, Except.bind, pure, Except.pure, checkDepth_words, toExpr_words]
  rw [Regex.compile, String.toList_ofList, hmeaning]

end Scratchpad.Pattern
