import Mathlib
import Scratchpad.Pattern.Escape

/-!
# Reading with something behind

A pattern of whole words is put between `\b(?:` and `)\b`.  Whatever is read of the pattern itself
is then read as if nothing stood behind it: a reading that succeeds both with and without the closing
comes to the same place, since a reading that met the end of the pattern would have failed there.
Only a comment may run over the end, and it takes the closing with it.

* `Alike` — two readings whose results are related if both succeed, with one lemma for each way to
  put readings together.
* `Cursor.Followed` — the same place in both patterns, with one lemma for each step of a cursor.
* `Cursor.Followed.takeWhile` — runs of characters.
* `SamePlace`, `samePlace_readEscape`, `samePlace_readAtom` — escapes and atoms.
-/

namespace Scratchpad.Pattern

/-! ## Two readings -/

/-- One reading after another succeeds only if both do. -/
lemma exists_of_bind {α β : Type} {x : Except Failure α} {f : α → Except Failure β} {b : β}
    (h : x >>= f = .ok b) : ∃ a, x = .ok a ∧ f a = .ok b := by
  cases x with
  | error e => cases h
  | ok a => exact ⟨a, rfl, h⟩

/-- Whenever two readings both succeed, their results are related. -/
def Alike {α β : Type} (R : α → β → Prop) (x : Except Failure α) (y : Except Failure β) : Prop :=
  ∀ a b, x = .ok a → y = .ok b → R a b

namespace Alike

variable {α β γ δ : Type} {R : α → β → Prop} {S : γ → δ → Prop} {x : Except Failure α}
  {y : Except Failure β} {f : α → Except Failure γ} {g : β → Except Failure δ} {a : α} {b : β}
  {e e' : Failure} {p q : Prop} [Decidable p] [Decidable q]

lemma ok (h : R a b) : Alike R (.ok a) (.ok b) := by
  rintro _ _ ⟨⟩ ⟨⟩
  exact h

lemma error_left : Alike R (.error e) y := by
  rintro _ _ ⟨⟩

lemma error_right : Alike R x (.error e) := by
  rintro _ _ _ ⟨⟩

/-- One of the readings fails, or both succeed. -/
@[elab_as_elim]
lemma elim {motive : Except Failure α → Except Failure β → Prop} (h : Alike R x y)
    (left : ∀ e y, motive (.error e) y) (right : ∀ x e, motive x (.error e))
    (both : ∀ a b, R a b → motive (.ok a) (.ok b)) : motive x y := by
  cases x with
  | error e => exact left e y
  | ok a =>
      cases y with
      | error e => exact right (.ok a) e
      | ok b => exact both a b (h a b rfl rfl)

lemma bind (h : Alike R x y) (hfg : ∀ a b, R a b → Alike S (f a) (g b)) :
    Alike S (x >>= f) (y >>= g) :=
  h.elim (fun _ _ => error_left) (fun _ _ => error_right) hfg

/-- What the next readings do with the results does not count. -/
lemma bind_any (hfg : ∀ a b, Alike S (f a) (g b)) : Alike S (x >>= f) (y >>= g) :=
  bind (R := fun _ _ => True) (fun _ _ _ _ => trivial) fun a b _ => hfg a b

lemma map {f : α → γ} {g : β → δ} (h : Alike R x y) (hfg : ∀ a b, R a b → S (f a) (g b)) :
    Alike S (f <$> x) (g <$> y) :=
  h.elim (fun _ _ => error_left) (fun _ _ => error_right) fun a b hab => ok (hfg a b hab)

lemma ite {x' : Except Failure α} {y' : Except Failure β} (h : p → Alike R x y)
    (h' : ¬ p → Alike R x' y') : Alike R (if p then x else x') (if p then y else y') := by
  split_ifs with hp
  · exact h hp
  · exact h' hp

/-- What a reading refuses, it does not read. -/
lemma refuse {f : Unit → Except Failure γ} {g : Unit → Except Failure δ}
    (hfg : Alike S (f ()) (g ())) :
    Alike S (if p then throw e >>= f else f ()) (if q then throw e' >>= g else g ()) := by
  split_ifs
  · exact error_left
  · exact error_left
  · exact error_right
  · exact hfg

end Alike

/-- Where both look for something, they find nothing, or both find something. -/
lemma rel_bind {α β γ δ : Type} {R : α → β → Prop} {S : γ → δ → Prop} {x : Option α} {y : Option β}
    {f : α → Option γ} {g : β → Option δ} (h : Option.Rel R x y)
    (hfg : ∀ a b, x = some a → R a b → Option.Rel S (f a) (g b)) :
    Option.Rel S (x >>= f) (y >>= g) := by
  cases h with
  | none => exact .none
  | some h => exact hfg _ _ rfl h

/-! ## Cursors -/

namespace Cursor

/-- What stands behind the pattern of whole words. -/
def closing : List Char := [')', '\\', 'b']

/-- Two cursors at the same place of a pattern, at most `n` characters before its end, the second
one with the closing behind the pattern.  A comment may have taken the closing with it. -/
structure Followed (n : ℕ) (c d : Cursor) : Prop where
  rest : d.rest = c.rest ++ closing ∨ c.rest = [] ∧ d.rest = []
  length_le : c.rest.length ≤ n

namespace Followed

variable {n m : ℕ} {c d : Cursor} {ch : Char}

lemma mono (h : Followed n c d) (hnm : n ≤ m) : Followed m c d := ⟨h.rest, h.length_le.trans hnm⟩

lemma succ (h : Followed n c d) : Followed (n + 1) c d := h.mono (Nat.le_succ n)

lemma length_le_add (h : Followed n c d) : d.rest.length ≤ n + closing.length := by
  have hlen := h.length_le
  rcases h.rest with hd | ⟨-, hd⟩ <;> simp [hd, closing]
  omega

/-- A character of the pattern itself is left in both. -/
lemma exists_cons (h : Followed n c d) (hc : c.rest ≠ []) :
    ∃ ch cs, c.rest = ch :: cs ∧ d.rest = ch :: (cs ++ closing) := by
  obtain ⟨ch, cs, hcs⟩ := List.exists_cons_of_ne_nil hc
  rcases h.rest with hd | ⟨hnil, -⟩
  · exact ⟨ch, cs, hcs, by rw [hd, hcs, List.cons_append]⟩
  · exact absurd hnil hc

lemma atEnd_eq (h : Followed n c d) (hc : c.rest ≠ []) : c.atEnd = false ∧ d.atEnd = false := by
  obtain ⟨ch, cs, hcs, hds⟩ := h.exists_cons hc
  simp [atEnd, hcs, hds]

/-- The closing begins with a parenthesis, so no other sign comes next in one pattern only. -/
lemma head?_eq_some_iff (h : Followed n c d) (hch : ch ≠ ')') :
    d.rest.head? = some ch ↔ c.rest.head? = some ch := by
  by_cases hc : c.rest = []
  · rcases h.rest with hd | ⟨-, hd⟩
    · simpa [hd, hc, closing] using hch.symm
    · rw [hd, hc]
  · obtain ⟨_, _, hcs, hds⟩ := h.exists_cons hc
    rw [hcs, hds, List.head?_cons, List.head?_cons]

lemma head?_beq (h : Followed n c d) (hch : ch ≠ ')') :
    (d.rest.head? == some ch) = (c.rest.head? == some ch) := by
  rw [Bool.eq_iff_iff, beq_iff_eq, beq_iff_eq, h.head?_eq_some_iff hch]

lemma bump (h : Followed (n + 1) c d) (hc : c.rest ≠ []) : Followed n c.bump d.bump := by
  obtain ⟨ch, cs, hcs, hds⟩ := h.exists_cons hc
  have hlen := h.length_le
  rw [hcs, List.length_cons] at hlen
  refine ⟨.inl ?_, ?_⟩
  · simp [Cursor.bump, hcs, hds]
  · simpa [Cursor.bump, hcs] using hlen

lemma skipBlanks {cs : List Char} {inComment : Bool} {p q : Position} (h : Followed n ⟨cs, p⟩ d) :
    Followed n (Pattern.skipBlanks inComment cs p) (Pattern.skipBlanks inComment d.rest q) := by
  induction cs generalizing d inComment p q with
  | nil =>
      rcases h.rest with hd | ⟨-, hd⟩
      · rw [hd]
        cases inComment with
        | true => exact ⟨.inr ⟨rfl, rfl⟩, Nat.zero_le n⟩
        | false => exact ⟨.inl rfl, Nat.zero_le n⟩
      · rw [hd]
        exact ⟨.inr ⟨rfl, rfl⟩, Nat.zero_le n⟩
  | cons ch cs ih =>
      obtain ⟨_, _, ⟨⟩, hds⟩ := h.exists_cons (List.cons_ne_nil ch cs)
      have hrest : ∀ p q, Followed n ⟨cs, p⟩ ⟨cs ++ closing, q⟩ := fun p q =>
        ⟨.inl rfl, (Nat.le_succ _).trans h.length_le⟩
      simp only [hds, Pattern.skipBlanks]
      split_ifs
      · exact ih (hrest _ q)
      · exact ih (hrest _ q)
      · exact ih (hrest _ q)
      · exact ⟨.inl rfl, h.length_le⟩

lemma skipSpace (h : Followed n c d) (extended : Bool) :
    Followed n (c.skipSpace extended) (d.skipSpace extended) := by
  cases extended with
  | true => exact skipBlanks h
  | false => exact h

lemma next (h : Followed (n + 1) c d) (hc : c.rest ≠ []) (extended : Bool) :
    Followed n (c.next extended) (d.next extended) :=
  (h.bump hc).skipSpace extended

/-- Fuel for what is left is fuel for what is left behind the next character. -/
lemma next_fuel (h : Followed n c d) (hc : c.rest ≠ []) (extended : Bool) {fuel fuel' : ℕ}
    (hfuel : c.rest.length ≤ fuel + 1) (hfuel' : d.rest.length ≤ fuel') :
    ∃ k, fuel' = k + 1 ∧ (c.next extended).rest.length ≤ fuel ∧
      (d.next extended).rest.length ≤ k := by
  obtain ⟨ch, cs, hcs, hds⟩ := h.exists_cons hc
  have hnext : Followed cs.length (c.next extended) (d.next extended) :=
    next ⟨h.rest, (congrArg List.length hcs).le⟩ hc extended
  rw [hcs, List.length_cons, Nat.succ_le_succ_iff] at hfuel
  rw [hds, List.length_cons, List.length_append] at hfuel'
  obtain ⟨k, rfl⟩ := Nat.exists_eq_add_of_le' (Nat.le_of_add_left_le hfuel')
  exact ⟨k, rfl, hnext.length_le.trans hfuel,
    hnext.length_le_add.trans (Nat.succ_le_succ_iff.mp hfuel')⟩

/-- A text without a parenthesis comes next in both patterns or in neither. -/
lemma bumpOver? (h : Followed n c d) (text : String) (htext : ')' ∉ text.toList) :
    Option.Rel (Followed n) (c.bumpOver? text) (d.bumpOver? text) := by
  unfold Cursor.bumpOver?
  generalize text.toList = w at htext
  induction w generalizing c d with
  | nil => exact .some h
  | cons ch w ih =>
      rw [List.mem_cons, not_or] at htext
      by_cases hc : c.rest = []
      · have hd : (ch :: w).isPrefixOf d.rest = false := by
          rcases h.rest with hd | ⟨-, hd⟩
          · simp [hd, hc, closing, List.isPrefixOf, Ne.symm htext.1]
          · rw [hd]
            rfl
        rw [hd, hc]
        exact .none
      · obtain ⟨x, cs, hcs, hds⟩ := h.exists_cons hc
        have ih := ih (h.succ.bump hc) htext.2
        simp only [Cursor.bump, hcs, hds] at ih
        simp only [hcs, hds, List.isPrefixOf, List.foldl_cons, Cursor.bump]
        by_cases hx : ch = x
        · simpa [hx] using ih
        · simp [hx]

/-- Of some texts without a parenthesis the same one comes next in both patterns, or none. -/
lemma findSome? (h : Followed n c d) (texts : List String)
    (htexts : ∀ text ∈ texts, ')' ∉ text.toList) :
    Option.Rel (Followed n) (texts.findSome? c.bumpOver?) (texts.findSome? d.bumpOver?) := by
  induction texts with
  | nil => exact .none
  | cons text texts ih =>
      have htext := h.bumpOver? text (htexts text List.mem_cons_self)
      rw [List.findSome?_cons, List.findSome?_cons]
      generalize c.bumpOver? text = x at htext ⊢
      generalize d.bumpOver? text = y at htext ⊢
      cases htext with
      | none => exact ih fun t ht => htexts t (List.mem_cons_of_mem text ht)
      | some hab => exact .some hab

section

variable {α β : Type} {R : α → β → Prop} {f : Unit → Except Failure α} {g : Unit → Except Failure β}
  {e e' : Failure}

/-- Where a reading may not be at the end, the pattern itself goes on. -/
lemma unlessAtEnd (h : Followed n c d) (hfg : c.rest ≠ [] → Alike R (f ()) (g ())) :
    Alike R (if c.atEnd = true then throw e >>= f else f ())
      (if d.atEnd = true then throw e' >>= g else g ()) := by
  by_cases hc : c.rest = []
  · simp only [atEnd, hc]
    exact .error_left
  · simp only [h.atEnd_eq hc]
    exact hfg hc

/-- Where a reading asks for a sign, the pattern itself goes on. -/
lemma unlessHead (hfg : c.rest ≠ [] → Alike R (f ()) (g ())) :
    Alike R (if (c.rest.head? != some ch) = true then throw e >>= f else f ())
      (if (d.rest.head? != some ch) = true then throw e' >>= g else g ()) := by
  by_cases hc : c.rest = []
  · simp only [hc]
    exact .error_left
  · exact .refuse (hfg hc)

end

end Followed

/-! ## Runs of characters -/

/-- Runs of characters of a kind that are taken from both patterns.  They are the same, unless the
run goes on to the end of the pattern and over the closing. -/
structure SameRun (p : Char → Bool) (n : ℕ) (r s : List Char × Cursor) : Prop where
  followed : Followed n r.2 s.2
  chars : p ')' = false ∨ r.2.rest ≠ [] → s.1 = r.1

section

variable {n fuel fuel' : ℕ} {c d : Cursor} {extended : Bool} {p : Char → Bool}

lemma takeUpTo_of_nil (hc : c.rest = []) : takeUpTo extended p fuel c = ([], c) := by
  cases fuel <;> simp [takeUpTo, hc]

lemma takeUpTo_closing (hd : d.rest = closing) (hp : p ')' = false) :
    takeUpTo extended p fuel d = ([], d) := by
  cases fuel <;> simp [takeUpTo, hd, closing, hp]

/-- What takes all characters of the closing comes to the end. -/
lemma takeUpTo_closing_all (hd : d.rest = closing) (hp : ∀ ch ∈ closing, p ch = true)
    (hfuel : closing.length ≤ fuel) : (takeUpTo extended p fuel d).2.rest = [] := by
  have hspace : Unicode.isBlank '\\' = false ∧ Unicode.isBlank 'b' = false := by decide
  have hp : p ')' = true ∧ p '\\' = true ∧ p 'b' = true := by simpa [closing] using hp
  obtain ⟨k, rfl⟩ := Nat.exists_eq_add_of_le' hfuel
  obtain ⟨rest, pos⟩ := d
  cases hd
  cases extended <;> cases k <;>
    simp [takeUpTo, closing, hp, hspace, next, bump, skipSpace, skipBlanks]

/-- A run that begins at the end of the pattern. -/
lemma sameRun_of_nil (hp : p ')' = false ∨ ∀ ch ∈ closing, p ch = true) (h : Followed n c d)
    (hc : c.rest = []) (hfuel' : d.rest.length ≤ fuel') :
    SameRun p n (takeUpTo extended p fuel c) (takeUpTo extended p fuel' d) := by
  rw [takeUpTo_of_nil hc]
  rcases h.rest with hd | ⟨-, hd⟩
  · rw [hc, List.nil_append] at hd
    rcases hp with hp | hp
    · rw [takeUpTo_closing hd hp]
      exact ⟨h, fun _ => rfl⟩
    · refine ⟨⟨.inr ⟨hc, takeUpTo_closing_all hd hp (hd ▸ hfuel')⟩, h.length_le⟩, fun hno => ?_⟩
      rcases hno with hno | hno
      · rw [hp ')' (by decide)] at hno
        cases hno
      · exact absurd hc hno
  · rw [takeUpTo_of_nil hd]
    exact ⟨h, fun _ => rfl⟩

lemma sameRun_takeUpTo (hp : p ')' = false ∨ ∀ ch ∈ closing, p ch = true) (h : Followed n c d)
    (hfuel : c.rest.length ≤ fuel) (hfuel' : d.rest.length ≤ fuel') :
    SameRun p n (takeUpTo extended p fuel c) (takeUpTo extended p fuel' d) := by
  induction fuel generalizing c d fuel' with
  | zero =>
      exact sameRun_of_nil hp h (List.eq_nil_of_length_eq_zero (Nat.le_zero.mp hfuel)) hfuel'
  | succ fuel ih =>
      by_cases hc : c.rest = []
      · exact sameRun_of_nil hp h hc hfuel'
      · obtain ⟨ch, cs, hcs, hds⟩ := h.exists_cons hc
        obtain ⟨k, rfl, hfuel, hfuel'⟩ := h.next_fuel hc extended hfuel hfuel'
        have ih := ih (h.succ.next hc extended) hfuel hfuel'
        simp only [takeUpTo, hcs, hds]
        split_ifs
        · exact ⟨ih.followed, fun h => congrArg (ch :: ·) (ih.chars h)⟩
        · exact ⟨h, fun _ => rfl⟩

/-- **A run of characters** in both patterns, of a kind to which the parenthesis of the closing does
not belong, or all of the closing does. -/
lemma Followed.takeWhile (h : Followed n c d)
    (hp : p ')' = false ∨ ∀ ch ∈ closing, p ch = true) (extended : Bool) :
    SameRun p n (c.takeWhile extended p) (d.takeWhile extended p) :=
  sameRun_takeUpTo hp h le_rfl le_rfl

end

end Cursor

open Cursor (Followed closing)

/-! ## Escapes -/

/-- Whenever two readings both succeed, they come to the same place. -/
def SamePlace {α : Type} (n : ℕ) (x y : Except Failure (α × Cursor)) : Prop :=
  Alike (fun r s => Followed n r.2 s.2) x y

variable {n : ℕ} {c d : Cursor}

lemma SamePlace.ok {α : Type} {a b : α} (h : Followed n c d) :
    SamePlace n (.ok (a, c)) (.ok (b, d)) :=
  Alike.ok h

section

variable (extended : Bool)

lemma samePlace_readHexDigits (h : Followed n c d) (count : ℕ) :
    SamePlace n (readHexDigits extended count c) (readHexDigits extended count d) := by
  induction count generalizing c d with
  | zero => exact .ok h
  | succ count ih =>
      by_cases hc : c.rest = []
      · rw [readHexDigits, hc]
        exact .error_left
      · obtain ⟨ch, cs, hcs, hds⟩ := h.exists_cons hc
        simp only [readHexDigits, hcs, hds]
        refine .ite (fun _ => ?_) fun _ => .error_left
        exact (ih (h.succ.next hc extended)).elim (fun _ _ => .error_left) (fun _ _ => .error_right)
          fun _ _ hrs => .ok hrs

/-- The number in braces, on whose opening brace the cursor stands. -/
def bracedHex (start : Position) (c : Cursor) : Except Failure (Atom × Cursor) :=
  let (digits, d) := (c.next extended).takeWhile extended isHexDigit
  match d.rest with
  | [] => .error ⟨⟨c.pos, d.pos⟩, .escapeUnfinished⟩
  | '\x7d' :: _ =>
    let behind := d.next extended
    if digits.isEmpty then .error ⟨⟨c.pos, behind.pos⟩, .hexEmpty⟩
    else match charOfCode? (numeral 16 digits) with
      | none => .error ⟨⟨c.bump.pos, d.pos⟩, .hexNotScalar⟩
      | some ch => .ok (.literal ⟨⟨start, behind.pos⟩, ch, false⟩, behind)
  | _ => .error ⟨d.charSpan, .hexInvalidDigit⟩

lemma readHex_of_brace {cs : List Char} (h : (c.next extended).rest = '\x7b' :: cs)
    (start : Position) (letter : Char) :
    readHex extended start letter c = bracedHex extended start (c.next extended) := by
  unfold readHex
  simp only [h]
  rfl

lemma samePlace_bracedHex (h : Followed n c d) (hc : c.rest ≠ []) (start start' : Position) :
    SamePlace n (bracedHex extended start c) (bracedHex extended start' d) := by
  unfold bracedHex
  have hrun := (h.succ.next hc extended).takeWhile (p := isHexDigit) (.inl (by decide)) extended
  generalize (c.next extended).takeWhile extended isHexDigit = r at hrun
  generalize (d.next extended).takeWhile extended isHexDigit = s at hrun
  obtain ⟨digits, e⟩ := r
  obtain ⟨digits', f⟩ := s
  have hef : Followed n e f := hrun.followed
  by_cases he : e.rest = []
  · simp only [he]
    exact .error_left
  obtain ⟨last, es, hes, hfs⟩ := hef.exists_cons he
  by_cases hlast : last = '\x7d'
  · subst hlast
    simp only [hes, hfs]
    intro a b ha hb
    split_ifs at ha hb
    split at ha <;> cases ha
    split at hb <;> cases hb
    exact hef.succ.next he extended
  · simp only [hes, List.cons.injEq, hlast, false_and, imp_self, implies_true]
    exact .error_left

lemma samePlace_readHex (h : Followed n c d) (hc : c.rest ≠ []) (start start' : Position)
    (letter : Char) :
    SamePlace n (readHex extended start letter c) (readHex extended start' letter d) := by
  have h := h.succ.next hc extended
  by_cases hend : (c.next extended).rest = []
  · simp only [readHex, hend]
    exact .error_left
  obtain ⟨ch, cs, hcs, hds⟩ := h.exists_cons hend
  by_cases hch : ch = '\x7b'
  · subst hch
    rw [readHex_of_brace extended hcs, readHex_of_brace extended hds]
    exact samePlace_bracedHex extended h hend start start'
  · simp only [readHex, hcs, hds, List.cons.injEq, hch, false_and, imp_self, implies_true]
    refine (samePlace_readHexDigits extended h _).elim (fun _ _ => .error_left)
      (fun _ _ => .error_right) fun r s hrs => ?_
    intro a b ha hb
    dsimp only at ha hb
    split at ha <;> cases ha
    split at hb <;> cases hb
    exact hrs

lemma samePlace_readProperty (h : Followed n c d) (hc : c.rest ≠ []) (start start' : Position)
    (negated : Bool) :
    SamePlace n (readProperty extended start negated c)
      (readProperty extended start' negated d) := by
  unfold readProperty
  have h := h.succ.next hc extended
  generalize c.next extended = c at h
  generalize d.next extended = d at h
  by_cases hc : c.rest = []
  · simp only [hc]
    exact .error_left
  obtain ⟨ch, cs, hcs, hds⟩ := h.exists_cons hc
  have hnext := h.succ.next hc extended
  by_cases hch : ch = '\x7b'
  · subst hch
    simp only [hcs, hds]
    have hp : ∀ ch ∈ closing, (ch != '}') = true := by simp [closing]
    have hrun := hnext.takeWhile (.inr hp) extended
    generalize (c.next extended).takeWhile extended _ = r at hrun
    generalize (d.next extended).takeWhile extended _ = s at hrun
    obtain ⟨name, e⟩ := r
    obtain ⟨name', f⟩ := s
    have hef : Followed n e f := hrun.followed
    by_cases he : e.rest = []
    · simp only [Cursor.atEnd, he]
      exact .error_left
    · simp only [hef.atEnd_eq he]
      exact .ok (hef.succ.bump he)
  · simp only [hcs, hds]
    exact .ite (fun _ => .error_left) fun _ => .ok hnext

lemma alike_readBoundary? (h : Followed n c d) (hc : c.rest ≠ []) (start start' : Position) :
    Alike (Option.Rel fun r s => r.1 = s.1 ∧ Followed n r.2 s.2)
      (readBoundary? extended start c) (readBoundary? extended start' d) := by
  unfold readBoundary?
  have h := h.succ.next hc extended
  generalize hci : c.next extended = ci at h
  generalize hdi : d.next extended = di at h
  by_cases hc : ci.rest = []
  · simp only [Cursor.atEnd, hc]
    exact .error_left
  have hrun := h.takeWhile (p := fun ch => ch.isAlpha || ch == '-') (.inl (by decide)) extended
  have hchars := hrun.chars (.inl (by decide))
  simp only [h.atEnd_eq hc]
  generalize ci.takeWhile extended _ = r at hrun hchars
  generalize di.takeWhile extended _ = s at hrun hchars
  obtain ⟨name, e⟩ := r
  obtain ⟨name', f⟩ := s
  cases hchars
  have hef : Followed n e f := hrun.followed
  simp only [Bool.false_eq_true, if_false]
  refine .ite (fun _ => .ok .none) fun _ => ?_
  by_cases he : e.rest = []
  · simp only [he]
    exact .error_left
  obtain ⟨last, es, hes, hfs⟩ := hef.exists_cons he
  by_cases hlast : last = '}'
  · subst hlast
    simp only [hes, hfs]
    cases boundaryNames.lookup (.ofList name) with
    | none => exact .error_left
    | some kind => exact .ok (.some ⟨rfl, hef.succ.bump he⟩)
  · simp only [hes, List.cons.injEq, hlast, false_and, imp_self, implies_true]
    exact .error_left

/-- **An escape** takes at least one character. -/
lemma samePlace_readEscape (h : Followed (n + 1) c d) (hc : c.rest ≠ []) :
    SamePlace n (readEscape extended c) (readEscape extended d) := by
  have hletter := h.bump hc
  unfold readEscape
  by_cases hcb : c.bump.rest = []
  · simp only [hcb]
    exact .error_left
  obtain ⟨ch, cs, hcs, hds⟩ := hletter.exists_cons hcb
  have hbehind := hletter.succ.bump hcb
  simp only [hcs, hds]
  refine .ite (fun _ => .error_left) fun _ => ?_
  refine .ite (fun _ => samePlace_readHex extended hletter hcb _ _ ch) fun _ => ?_
  refine .ite (fun _ => samePlace_readProperty extended hletter hcb _ _ _) fun _ => ?_
  cases classLetters.lookup ch with
  | some kind => exact .ok hbehind
  | none =>
      refine .ite (fun _ => .ok hbehind) fun _ => ?_
      cases controlLetters.lookup ch with
      | some control => exact .ok hbehind
      | none =>
          cases assertionLetters.lookup ch with
          | some kind => exact .ok hbehind
          | none =>
              refine .ite (fun _ => ?_) fun _ => .error_left
              simp only [hbehind.head?_eq_some_iff (show '\x7b' ≠ ')' by decide)]
              refine .ite (fun hbrace => ?_) fun _ => .ok hbehind
              have hne : c.bump.bump.rest ≠ [] := fun hnil => by simp [hnil] at hbrace
              refine (alike_readBoundary? extended hbehind hne c.pos d.pos).elim
                (fun _ _ => .error_left) (fun _ _ => .error_right) fun r s hrs => ?_
              cases hrs with
              | none => exact .ok hbehind
              | some hrs => exact .ok hrs.2

/-- What reads escapes, and takes whatever is no escape as a single character. -/
lemma samePlace_of_single {read : Cursor → Except Failure (Atom × Cursor)}
    (hescape : ∀ c cs, c.rest = '\\' :: cs → read c = readEscape extended c)
    (hsingle : ∀ c ch cs, c.rest = ch :: cs → ch ≠ '\\' → ∃ a, read c = .ok (a, c.bump))
    (h : Followed (n + 1) c d) (hc : c.rest ≠ []) : SamePlace n (read c) (read d) := by
  obtain ⟨ch, cs, hcs, hds⟩ := h.exists_cons hc
  by_cases hch : ch = '\\'
  · subst hch
    rw [hescape c _ hcs, hescape d _ hds]
    exact samePlace_readEscape extended h hc
  · obtain ⟨a, ha⟩ := hsingle c _ _ hcs hch
    obtain ⟨b, hb⟩ := hsingle d _ _ hds hch
    rw [ha, hb]
    exact .ok (h.bump hc)

/-- **An atom** takes at least one character. -/
lemma samePlace_readAtom (h : Followed (n + 1) c d) (hc : c.rest ≠ []) :
    SamePlace n (readAtom extended c) (readAtom extended d) := by
  refine samePlace_of_single extended (fun c cs hcs => ?_) (fun c ch cs hcs hch => ?_) h hc
  · simp only [readAtom, hcs]
  · unfold readAtom
    split
    · next heq => exact absurd (List.cons.inj (hcs.symm.trans heq)).1 hch
    · exact ⟨_, rfl⟩
    · exact ⟨_, rfl⟩
    · exact ⟨_, rfl⟩
    · exact ⟨_, rfl⟩
    · next heq => cases hcs.symm.trans heq

end

end Scratchpad.Pattern
