import Scratchpad.Proofs.Replace.Passes

/-!
# References in replacements mean what they say

A replacement is put into the words of a template, and the template is read by rules of its own.
The two together come to one reading of the replacement from the left.

* `groupAt?`, `fillIn` — the reading: which groups a replacement refers to, and its text with these
  filled in.
* `templateText_dollar`, `ofChars_bracedRef` — one reference as it is put into the template, and as
  it is found there.
* `groupNumber?_eq` — two digits are tried before one.
* `expand_templateText` — filling in the template is filling in the replacement.
* `templateText_of_notMem`, `literal?_ofChars` — a replacement without references.
* **`CompiledRule.expansion_eq_fillIn`** — what a rule writes for a match.
-/

namespace Scratchpad.Replace

open Pattern (Regex Match)

/-! ## Reading a replacement -/

/-- The number that digits write. -/
def number (ds : List Char) : ℕ := ds.foldl (fun n c => n * 10 + (c.toNat - '0'.toNat)) 0

/-- The group whose number stands next in `size` digits, where there are groups from 1 to
`last`. -/
def groupAt? (last size : ℕ) (cs : List Char) : Option ℕ :=
  let ds := cs.take size
  if ds.length = size ∧ (∀ c ∈ ds, c.isDigit = true) ∧ 1 ≤ number ds ∧ number ds ≤ last then
    some (number ds)
  else none

/-- A replacement with the groups filled in, where there are groups from 1 to `last` and group 0 is
the whole match.  A dollar inserts the group whose number stands behind it, in two digits or else in
one, or the whole match where `&` stands behind it.  Two dollars are one, and any other dollar
stands for itself. -/
def fillIn (last : ℕ) (group : ℕ → List Char) : List Char → List Char
  | [] => []
  | c :: cs =>
    if c ≠ '$' then c :: fillIn last group cs
    else match groupAt? last 2 cs, groupAt? last 1 cs with
      | some n, _ => group n ++ fillIn last group (cs.drop 2)
      | none, some n => group n ++ fillIn last group (cs.drop 1)
      | none, none =>
        if cs.head? = some '&' then group 0 ++ fillIn last group (cs.drop 1)
        else if cs.head? = some '$' then '$' :: fillIn last group (cs.drop 1)
        else '$' :: fillIn last group cs
termination_by cs => cs.length
decreasing_by all_goals simp; try omega

/-! ## Into the template -/

section

variable {groups : ℕ} {hasNames : Bool} {c : Char} {cs : List Char}

lemma templateTextFrom_eq (groups : ℕ) (hasNames : Bool) (skip : ℕ) (cs : List Char) :
    templateTextFrom groups hasNames skip cs = templateText groups hasNames (cs.drop skip) := by
  induction cs generalizing skip with
  | nil => rw [List.drop_nil, templateText, templateTextFrom, templateTextFrom]
  | cons c cs ih =>
      cases skip with
      | zero => rfl
      | succ skip => rw [templateTextFrom, ih, List.drop_succ_cons]

lemma templateText_cons (h : c ≠ '$') (cs : List Char) :
    templateText groups hasNames (c :: cs) = c :: templateText groups hasNames cs := by
  rw [templateText, templateTextFrom, if_neg h]
  rfl

/-- A dollar becomes what it says, and the reading goes on behind what belongs to it. -/
lemma templateText_dollar (groups : ℕ) (hasNames : Bool) (cs : List Char) :
    templateText groups hasNames ('$' :: cs)
      = (dollarText groups hasNames cs).1
          ++ templateText groups hasNames (cs.drop (dollarText groups hasNames cs).2) := by
  rw [templateText, templateTextFrom, if_pos rfl, ← templateTextFrom_eq]

/-- Digits that are taken from those that stand next are taken from the text. -/
lemma take_digits {size : ℕ} (h : size ≤ 2)
    (hle : size ≤ ((cs.take 2).takeWhile Char.isDigit).length) :
    ((cs.take 2).takeWhile Char.isDigit).take size = cs.take size := by
  obtain ⟨t, ht⟩ := List.takeWhile_prefix Char.isDigit (l := cs.take 2)
  calc ((cs.take 2).takeWhile Char.isDigit).take size
    _ = ((cs.take 2).takeWhile Char.isDigit ++ t).take size :=
        (List.take_append_of_le_length hle).symm
    _ = cs.take size := by rw [ht, List.take_take, min_eq_left h]

lemma le_length_digits_iff {size : ℕ} (h : size ≤ 2) :
    size ≤ ((cs.take 2).takeWhile Char.isDigit).length ↔
      (cs.take size).length = size ∧ ∀ c ∈ cs.take size, c.isDigit = true := by
  constructor
  · intro hle
    rw [← take_digits h hle]
    exact ⟨List.length_take_of_le hle, fun c hc => List.mem_takeWhile_imp (List.mem_of_mem_take hc)⟩
  · rintro ⟨hlength, hdigits⟩
    have htake : cs.take size = (cs.take 2).take size := by rw [List.take_take, min_eq_left h]
    rw [← List.take_append_drop size (cs.take 2), ← htake, List.takeWhile_append_of_pos hdigits,
      List.length_append, hlength]
    exact Nat.le_add_right _ _

/-- What is tried with a number of digits. -/
lemma groupOfDigits_eq (last : ℕ) {size : ℕ} (h : size ≤ 2) (cs : List Char) :
    (let digits := (cs.take 2).takeWhile Char.isDigit
      if size ≤ digits.length && 1 ≤ number (digits.take size)
          && number (digits.take size) < last + 1 then
        some (number (digits.take size), size)
      else none) = (groupAt? last size cs).map (·, size) := by
  dsimp only
  rw [groupAt?]
  by_cases hle : size ≤ ((cs.take 2).takeWhile Char.isDigit).length
  · have hdigits := (le_length_digits_iff h).mp hle
    rw [take_digits h hle]
    by_cases hn : 1 ≤ number (cs.take size) ∧ number (cs.take size) ≤ last
    · rw [if_pos (by simpa [hle, Nat.lt_succ_iff] using hn), if_pos ⟨hdigits.1, hdigits.2, hn⟩]
      rfl
    · rw [if_neg (by simpa [hle, Nat.lt_succ_iff] using hn), if_neg fun hyes => hn hyes.2.2]
      rfl
  · have hdigits := mt (le_length_digits_iff h).mpr hle
    rw [if_neg (by simp [hle]), if_neg fun hyes => hdigits ⟨hyes.1, hyes.2.1⟩]
    rfl

/-- **Two digits are tried before one.** -/
lemma groupNumber?_eq (last : ℕ) (cs : List Char) :
    groupNumber? (last + 1) cs
      = ((groupAt? last 2 cs).map (·, 2)).or ((groupAt? last 1 cs).map (·, 1)) := by
  have hor : ∀ tried : ℕ → Option (ℕ × ℕ),
      [2, 1].findSome? tried = (tried 2).or (tried 1) := by
    intro tried
    cases htwo : tried 2 <;> cases hone : tried 1 <;> simp [htwo, hone]
  rw [← groupOfDigits_eq last le_rfl, ← groupOfDigits_eq last one_le_two, groupNumber?]
  dsimp only
  rw [hor]
  rfl

lemma groupNumber?_eq_none {last : ℕ} (htwo : groupAt? last 2 cs = none)
    (hone : groupAt? last 1 cs = none) : groupNumber? (last + 1) cs = none := by
  rw [groupNumber?_eq, htwo, hone]
  rfl

end

/-! ## Out of the template -/

section

variable {c : Char} {name cs : List Char}

lemma ofCharsFrom_eq (skip : ℕ) (cs : List Char) :
    Template.ofCharsFrom skip cs = Template.ofChars (cs.drop skip) := by
  induction cs generalizing skip with
  | nil => rw [List.drop_nil, Template.ofChars, Template.ofCharsFrom, Template.ofCharsFrom]
  | cons c cs ih =>
      cases skip with
      | zero => rfl
      | succ skip => rw [Template.ofCharsFrom, ih, List.drop_succ_cons]

lemma ofChars_cons (h : c ≠ '$') (cs : List Char) :
    Template.ofChars (c :: cs) = .char c :: Template.ofChars cs := by
  rw [Template.ofChars, Template.ofCharsFrom, if_neg h]
  rfl

lemma ofChars_dollars (cs : List Char) :
    Template.ofChars ('$' :: '$' :: cs) = .char '$' :: Template.ofChars cs := rfl

/-- What stands before the first sign of a kind. -/
lemma takeWhile_upTo (h : c ∉ name) (cs : List Char) :
    (name ++ c :: cs).takeWhile (· != c) = name := by
  rw [List.takeWhile_append_of_pos]
  · simp
  · intro d hd
    exact bne_iff_ne.mpr fun heq => h (heq ▸ hd)

/-- A reference in braces is found again. -/
lemma ofChars_bracedRef (h : '}' ∉ name) (cs : List Char) :
    Template.ofChars (bracedRef name ++ cs) = .group (.ofChars name) :: Template.ofChars cs := by
  have hread : readRef? ('{' :: (name ++ '}' :: cs))
      = some (.group (.ofChars name), name.length + 2) := by
    rw [readRef?, takeWhile_upTo h]
    simp
  have hdrop : ('{' :: (name ++ '}' :: cs)).drop (name.length + 2) = cs := by
    simp
  have hcons : bracedRef name ++ cs = '$' :: '{' :: (name ++ '}' :: cs) := by
    simp [bracedRef]
  rw [hcons, Template.ofChars, Template.ofCharsFrom, if_pos rfl, hread]
  dsimp only
  rw [ofCharsFrom_eq, hdrop]

/-- The number of a group is read as it was written. -/
lemma groupRef_toDigits (n : ℕ) : GroupRef.ofChars (Nat.toDigits 10 n) = .number n := by
  have hdigit : ∀ c ∈ Nat.toDigits 10 n, c.isDigit = true := fun c hc =>
    Nat.isDigit_of_mem_toDigits (by decide : 0 < 10) le_rfl hc
  have hread : readNumber? (Nat.toDigits 10 n) = some n := by
    cases hds : Nat.toDigits 10 n with
    | nil => exact absurd hds Nat.toDigits_ne_nil
    | cons d ds =>
        rw [hds] at hdigit
        have hplus : d ≠ '+' := by
          rintro rfl
          exact absurd (hdigit '+' List.mem_cons_self) (by decide)
        have hnumber : number (d :: ds) = n := by
          rw [← hds, number]
          simp only [Nat.mul_comm _ 10]
          exact Nat.ofDigitChars_toDigits (by decide : 1 < 10) le_rfl
        have hall : (d :: ds).all Char.isDigit = true := List.all_eq_true.mpr hdigit
        unfold readNumber?
        split
        · simp_all
        · dsimp only
          rw [hall]
          exact congrArg some hnumber
  rw [GroupRef.ofChars, hread]

end

/-! ## Through the template -/

section

variable {last groups taken n : ℕ} {hasNames : Bool} {cs : List Char}

lemma dollarText_group (h : groupNumber? groups cs = some (n, taken)) :
    dollarText groups hasNames cs = (bracedRef (Nat.toDigits 10 n), taken) := by
  unfold dollarText
  rw [h]

/-- Where no group is named, a dollar refers to the whole match or stands for itself. -/
lemma dollarText_noGroup (h : groupNumber? groups cs = none)
    (hname : hasNames = true → cs.head? ≠ some '<') :
    dollarText groups hasNames cs =
      if cs.head? = some '&' then (bracedRef (Nat.toDigits 10 0), 1)
      else if cs.head? = some '$' then (['$', '$'], 1)
      else (['$', '$'], 0) := by
  unfold dollarText
  rw [h]
  dsimp only
  split
  · rw [List.head?_cons, if_pos rfl]
    rfl
  · rw [List.head?_cons, if_neg (by decide), if_pos rfl]
  · cases hasNames with
    | false => rfl
    | true => exact absurd List.head?_cons (hname rfl)
  · next hand hdollar _ =>
      cases cs with
      | nil => rfl
      | cons c cs =>
          have hc : c ≠ '&' ∧ c ≠ '$' :=
            ⟨fun heq => hand cs (heq ▸ rfl), fun heq => hdollar cs (heq ▸ rfl)⟩
          simp [hc]

variable (groupText : ℕ → Option (List Char)) (number? : String → Option ℕ)

/-- A reference in the template inserts its group. -/
lemma expand_templateText_group
    (h : dollarText groups hasNames cs = (bracedRef (Nat.toDigits 10 n), taken)) :
    (Template.ofChars (templateText groups hasNames ('$' :: cs))).expand groupText number?
      = (groupText n).getD [] ++
        (Template.ofChars (templateText groups hasNames (cs.drop taken))).expand groupText
          number? := by
  have hdigits : '}' ∉ Nat.toDigits 10 n := fun hmem =>
    absurd (Nat.isDigit_of_mem_toDigits (by decide : 0 < 10) le_rfl hmem) (by decide)
  rw [templateText_dollar, h]
  dsimp only
  rw [ofChars_bracedRef hdigits, groupRef_toDigits]
  rfl

/-- Two dollars in the template insert one. -/
lemma expand_templateText_dollar (h : dollarText groups hasNames cs = (['$', '$'], taken)) :
    (Template.ofChars (templateText groups hasNames ('$' :: cs))).expand groupText number?
      = '$' ::
        (Template.ofChars (templateText groups hasNames (cs.drop taken))).expand groupText
          number? := by
  rw [templateText_dollar, h]
  dsimp only [List.cons_append, List.nil_append]
  rw [ofChars_dollars]
  rfl

end

section

variable {last : ℕ} {hasNames : Bool} {c : Char} {cs : List Char}

lemma drop_refersToNoName (h : hasNames = true → ¬ ['$', '<'] <:+: c :: cs) (taken : ℕ) :
    hasNames = true → ¬ ['$', '<'] <:+: cs.drop taken := fun hn hin =>
  h hn ((hin.trans (List.drop_suffix taken cs).isInfix).trans (List.suffix_cons c cs).isInfix)

lemma head?_refersToNoName (h : hasNames = true → ¬ ['$', '<'] <:+: '$' :: cs) :
    hasNames = true → cs.head? ≠ some '<' := fun hn hhead => by
  obtain ⟨ds, rfl⟩ := List.head?_eq_some_iff.mp hhead
  exact h hn ⟨[], ds, rfl⟩

/-- **Filling in the template is filling in the replacement.**  Names are no part of it: where the
pattern has some, the replacement must not refer to them. -/
theorem expand_templateText (h : hasNames = true → ¬ ['$', '<'] <:+: cs)
    (groupText : ℕ → Option (List Char)) (number? : String → Option ℕ) :
    (Template.ofChars (templateText (last + 1) hasNames cs)).expand groupText number?
      = fillIn last (fun n => (groupText n).getD []) cs := by
  -- along the reading: each case is one thing that it finds, and what follows is read like the rest
  induction cs using fillIn.induct last with
  | case1 =>
      rw [fillIn]
      rfl
  | case2 c cs hc ih =>
      rw [fillIn, if_pos hc, templateText_cons hc, ofChars_cons hc, ← ih (drop_refersToNoName h 0)]
      rfl
  | case3 c cs hc n htwo ih =>
      obtain rfl := not_ne_iff.mp hc
      have hgroup : groupNumber? (last + 1) cs = some (n, 2) := by
        rw [groupNumber?_eq, htwo]
        rfl
      rw [fillIn, if_neg hc, htwo, expand_templateText_group _ _ (dollarText_group hgroup),
        ih (drop_refersToNoName h 2)]
  | case4 c cs hc n hone htwo ih =>
      obtain rfl := not_ne_iff.mp hc
      have hgroup : groupNumber? (last + 1) cs = some (n, 1) := by
        rw [groupNumber?_eq, htwo, hone]
        rfl
      rw [fillIn, if_neg hc, htwo, hone, expand_templateText_group _ _ (dollarText_group hgroup),
        ih (drop_refersToNoName h 1)]
  | case5 c cs hc hone htwo hand ih =>
      obtain rfl := not_ne_iff.mp hc
      have hdollar := dollarText_noGroup (groupNumber?_eq_none htwo hone) (head?_refersToNoName h)
      rw [if_pos hand] at hdollar
      rw [fillIn, if_neg hc, htwo, hone]
      dsimp only
      rw [if_pos hand, expand_templateText_group _ _ hdollar, ih (drop_refersToNoName h 1)]
  | case6 c cs hc hone htwo hand hdollars ih =>
      obtain rfl := not_ne_iff.mp hc
      have hdollar := dollarText_noGroup (groupNumber?_eq_none htwo hone) (head?_refersToNoName h)
      rw [if_neg hand, if_pos hdollars] at hdollar
      rw [fillIn, if_neg hc, htwo, hone]
      dsimp only
      rw [if_neg hand, if_pos hdollars, expand_templateText_dollar _ _ hdollar,
        ih (drop_refersToNoName h 1)]
  | case7 c cs hc hone htwo hand hdollars ih =>
      obtain rfl := not_ne_iff.mp hc
      have hdollar := dollarText_noGroup (groupNumber?_eq_none htwo hone) (head?_refersToNoName h)
      rw [if_neg hand, if_neg hdollars] at hdollar
      rw [fillIn, if_neg hc, htwo, hone]
      dsimp only
      rw [if_neg hand, if_neg hdollars, expand_templateText_dollar _ _ hdollar, List.drop_zero,
        ih (drop_refersToNoName h 0)]

end

/-! ## Replacements without references -/

section

variable {groups : ℕ} {a : List Char}

lemma templateText_append (h : '$' ∉ a) (hasNames : Bool) (cs : List Char) :
    templateText groups hasNames (a ++ cs) = a ++ templateText groups hasNames cs := by
  induction a with
  | nil => rfl
  | cons c a ih =>
      rw [List.cons_append, templateText_cons (List.ne_of_not_mem_cons h).symm,
        ih (List.not_mem_of_not_mem_cons h), List.cons_append]

lemma templateText_of_notMem (h : '$' ∉ a) (hasNames : Bool) :
    templateText groups hasNames a = a := by
  have happend : templateText groups hasNames (a ++ []) = a ++ [] :=
    templateText_append h hasNames []
  rwa [List.append_nil] at happend

/-- A dollar introduces a dollar or a reference. -/
lemma eq_of_readRef? {cs : List Char} {piece : Piece} {taken : ℕ}
    (h : readRef? cs = some (piece, taken)) : piece = .char '$' ∨ ∃ ref, piece = .group ref := by
  unfold readRef? at h
  split at h
  · cases h
    exact .inl rfl
  · dsimp only at h
    split_ifs at h
    cases h
    exact .inr ⟨_, rfl⟩
  · dsimp only at h
    split_ifs at h
    cases h
    exact .inr ⟨_, rfl⟩

lemma literal?_dollar (cs : List Char) : (Template.ofChars ('$' :: cs)).literal? = none := by
  rw [Template.ofChars, Template.ofCharsFrom, if_pos rfl]
  split
  · next piece taken hread =>
    rcases eq_of_readRef? hread with rfl | ⟨ref, rfl⟩ <;> rfl
  · rfl

/-- **A template is a literal text** exactly if there is no dollar in it. -/
lemma literal?_ofChars (cs : List Char) :
    (Template.ofChars cs).literal? = if '$' ∈ cs then none else some cs := by
  induction cs with
  | nil => rfl
  | cons c cs ih =>
      by_cases hc : c = '$'
      · rw [hc, literal?_dollar, if_pos List.mem_cons_self]
      · rw [ofChars_cons hc, Template.literal?, if_neg hc, ih]
        by_cases hmem : '$' ∈ cs
        · rw [if_pos hmem, if_pos (List.mem_cons_of_mem c hmem), Option.map_none]
        · rw [if_neg hmem, if_neg (List.not_mem_cons_of_ne_of_not_mem (Ne.symm hc) hmem),
            Option.map_some]

end

/-! ## What a rule writes -/

/-- The text of a group of a match, which is empty if the group took no part. -/
def groupText (text : Array Char) (m : Match) (n : ℕ) : List Char :=
  ((m.group? n).map fun g => between text g.1 g.2).getD []

/-- **A rule writes its replacement with the groups filled in**, for every match of every pattern
that compiles.  Where the pattern has named groups, the replacement must not refer to them. -/
theorem CompiledRule.expansion_eq_fillIn {index : ℕ} {rule : Rule} {variant : Variant}
    {wholeWords : Bool} {c : CompiledRule} (hc : ofRule index rule variant wholeWords = .ok c)
    (hdeletes : rule.deletes = false)
    (hname : c.regex.groupNames ≠ [] →
      ¬ ['$', '<'] <:+: (rule.variant variant).replacement.toList)
    (text : Array Char) (m : Match) :
    c.expansion text m
      = fillIn (c.regex.groupCount - 1) (groupText text m)
          (rule.variant variant).replacement.toList := by
  obtain ⟨flags, regex, -, -, rfl⟩ := ofRule_eq_ok_iff.mp hc
  have hkeeps : (rule.variant variant).deletes = false := by
    cases variant
    · exact hdeletes
    · exact hdeletes
  have hnoName : (!regex.groupNames.isEmpty) = true →
      ¬ ['$', '<'] <:+: (rule.variant variant).replacement.toList := fun h =>
    hname fun hnil => by simp [hnil] at h
  rw [expansion, templateOf, hkeeps]
  exact expand_templateText hnoName _ _

/-- Two digits that are the number of no group, a group that took no part, and dollars and braces
beside references. -/
theorem CompiledRule.expansion_eq_fillIn_optional :
    let rule : Rule := { pattern := "(?<_>a)(b)?", replacement := "$12-$2\x7b$&\x7d$$1$ $0$" }
    let text := "a".toList.toArray
    ∃ c m, ofRule 0 rule .asWritten false = .ok c ∧ c.regex.find text = [m] ∧
      rule.deletes = false ∧
      (c.regex.groupNames ≠ [] → ¬ ['$', '<'] <:+: (rule.variant .asWritten).replacement.toList) ∧
      fillIn 2 (groupText text m) (rule.variant .asWritten).replacement.toList
        = "a2-\x7ba\x7d$1$ $0$".toList := by
  intro rule text
  let m : Match := ⟨0, 1, [(3, 1), (2, 0)]⟩
  obtain ⟨c, hc, hfacts⟩ : ∃ c, ofRule 0 rule .asWritten false = .ok c ∧
      (c.regex.find text, c.regex.groupCount, c.expansion text m)
        = ([m], 3, "a2-\x7ba\x7d$1$ $0$".toList) := exists_of_map_ofRule (by decide +kernel)
  obtain ⟨hfind, hcount, hwritten⟩ : c.regex.find text = [m] ∧ c.regex.groupCount = 3 ∧
      c.expansion text m = "a2-\x7ba\x7d$1$ $0$".toList := by
    simpa only [Prod.mk.injEq] using hfacts
  have hname : ¬ ['$', '<'] <:+: (rule.variant .asWritten).replacement.toList := by decide +kernel
  have hfill := expansion_eq_fillIn hc rfl (fun _ => hname) text m
  rw [hcount, hwritten] at hfill
  exact ⟨c, m, hc, hfind, rfl, fun _ => hname, hfill.symm⟩

end Scratchpad.Replace
