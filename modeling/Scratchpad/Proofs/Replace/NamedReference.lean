import Scratchpad.Proofs.Pattern.GroupName
import Scratchpad.Proofs.Replace.BackReference

/-!
# References by name

A replacement refers to a group by `$<name>`, which becomes `${name}` in the template.  The template
has rules of its own for what stands in braces: the first brace that closes is the end of it, and
digits are the number of a group.  No name that a group can have is affected by these rules, but the
names of replacements are not checked.

* `namedRef`, `CompiledRule.namedText` — a reference by name, and what it stands for.
* `expand_templateText_namedRef` — what is inserted if the name has no brace in it, and
  `expand_templateText_namedRef_brace` — if it has.
* `readNumber?_eq_none` — the name of a group is no number.
* **`CompiledRule.expansion_namedRef_iff`** — when a reference inserts what it stands for.
-/

namespace Scratchpad.Replace

open Pattern (Regex Match IsGroupName)

/-- A reference to a group by its name, as a replacement writes it. -/
def namedRef (name : List Char) : List Char := ['$', '<'] ++ name ++ ['>']

/-- What a reference by name stands for: the text of the group with that name, or nothing if there
is no such group or if it took no part in the match. -/
def CompiledRule.namedText (c : CompiledRule) (text : Array Char) (m : Match) (name : List Char) :
    List Char :=
  ((c.regex.groupNames.lookup (.ofList name)).map (groupText text m)).getD []

/-! ## Through the template -/

section

variable {groups : ℕ} {a b name cs : List Char}

/-- Where groups have names, a reference by name is put in braces as it is. -/
lemma templateText_namedRef (h : '>' ∉ name) (cs : List Char) :
    templateText groups true (namedRef name ++ cs)
      = bracedRef name ++ templateText groups true cs := by
  have hdollar : dollarText groups true ('<' :: (name ++ '>' :: cs))
      = (bracedRef name, name.length + 2) := by
    have hnumber : groupNumber? groups ('<' :: (name ++ '>' :: cs)) = none := by
      simp [groupNumber?]
    simp [dollarText, hnumber, takeWhile_upTo h]
  have hdrop : ('<' :: (name ++ '>' :: cs)).drop (name.length + 2) = cs := by
    simp
  have hcons : namedRef name ++ cs = '$' :: '<' :: (name ++ '>' :: cs) := by
    simp [namedRef]
  rw [hcons, templateText_dollar, hdollar]
  dsimp only
  rw [hdrop]

variable (groupText : ℕ → Option (List Char)) (number? : String → Option ℕ)

lemma expand_append (h : '$' ∉ a) (cs : List Char) :
    (Template.ofChars (a ++ cs)).expand groupText number?
      = a ++ (Template.ofChars cs).expand groupText number? := by
  induction a with
  | nil => rfl
  | cons c a ih =>
      rw [List.cons_append, ofChars_cons (List.ne_of_not_mem_cons h).symm, List.cons_append,
        ← ih (List.not_mem_of_not_mem_cons h)]
      rfl

lemma expand_of_notMem (h : '$' ∉ a) :
    (Template.ofChars a).expand groupText number? = a :=
  expand_of_literal? (by rw [literal?_ofChars, if_neg h]) groupText number?

lemma expand_bracedRef (h : '}' ∉ name) (cs : List Char) :
    (Template.ofChars (bracedRef name ++ cs)).expand groupText number?
      = Template.expandPiece groupText number? (.group (.ofChars name))
        ++ (Template.ofChars cs).expand groupText number? := by
  rw [ofChars_bracedRef h]
  rfl

section

variable (ha : '$' ∉ a) (hb : '$' ∉ b) (hend : '>' ∉ name)

include ha hb hend

lemma templateText_around : templateText groups true (a ++ namedRef name ++ b)
    = a ++ (bracedRef name ++ b) := by
  rw [List.append_assoc, templateText_append ha, templateText_namedRef hend,
    templateText_of_notMem hb]

/-- A name without a brace is looked up, or taken for a number. -/
lemma expand_templateText_namedRef (hbrace : '}' ∉ name) :
    (Template.ofChars (templateText groups true (a ++ namedRef name ++ b))).expand groupText number?
      = a ++ Template.expandPiece groupText number? (.group (.ofChars name)) ++ b := by
  rw [templateText_around ha hb hend, expand_append _ _ ha, expand_bracedRef _ _ hbrace,
    expand_of_notMem _ _ hb, List.append_assoc]

/-- Of a name with a brace, what stands before the first one is taken for the name, and the rest is
written as it is. -/
lemma expand_templateText_namedRef_brace {part rest : List Char}
    (hname : name = part ++ '}' :: rest) (hpart : '}' ∉ part) (hdollar : '$' ∉ name) :
    (Template.ofChars (templateText groups true (a ++ namedRef name ++ b))).expand groupText number?
      = a ++ Template.expandPiece groupText number? (.group (.ofChars part))
        ++ (rest ++ '}' :: b) := by
  have hrest : '$' ∉ rest ++ '}' :: b := by
    rw [hname] at hdollar
    simp only [List.mem_append, List.mem_cons, not_or] at hdollar ⊢
    exact ⟨hdollar.2.2, by decide, hb⟩
  have hbraced : bracedRef name ++ b = bracedRef part ++ (rest ++ '}' :: b) := by
    rw [hname]
    simp [bracedRef]
  rw [templateText_around ha hb hend, hbraced, expand_append _ _ ha, expand_bracedRef _ _ hpart,
    expand_of_notMem _ _ hrest, List.append_assoc]

end

end

/-! ## Names and numbers -/

/-- **The name of a group is no number.** -/
lemma readNumber?_eq_none {name : List Char} (h : IsGroupName name) : readNumber? name = none := by
  obtain ⟨c, cs, rfl, hc, -⟩ := h
  have hfirst : ¬ c.toNat < 0x41 := fun hlt => by
    rw [Pattern.not_isNameChar_first hlt] at hc
    cases hc
  have hplus : c ≠ '+' := by
    rintro rfl
    exact hfirst (by decide)
  have hdigit : c.isDigit = false := by
    rw [Bool.eq_false_iff]
    intro hdigit
    have hle : c.toNat ≤ 57 := (Char.isDigit_iff_toNat.mp hdigit).2
    omega
  unfold readNumber?
  split
  · next heq => exact absurd (List.cons.inj heq).1 hplus
  · simp [hdigit]

section

variable {index : ℕ} {rule : Rule} {variant : Variant} {wholeWords : Bool} {c : CompiledRule}

/-- Only proper names stand for anything. -/
lemma CompiledRule.namedText_eq_nil (hc : ofRule index rule variant wholeWords = .ok c)
    {name : List Char} (hname : ¬ IsGroupName name) (text : Array Char) (m : Match) :
    c.namedText text m name = [] := by
  obtain ⟨flags, regex, -, hregex, rfl⟩ := ofRule_eq_ok_iff.mp hc
  obtain ⟨e, he, rfl⟩ := Pattern.exists_meaning_of_compile hregex
  cases hlookup : (Regex.ofExpr e).groupNames.lookup (.ofList name) with
  | none => rw [namedText, hlookup]; rfl
  | some n =>
      obtain ⟨before, after, hnames, -⟩ := List.lookup_eq_some_iff.mp hlookup
      have hmem : (String.ofList name, n) ∈ (Regex.ofExpr e).groupNames := by
        rw [hnames]
        simp
      have hproper := Pattern.isGroupName_of_meaning he hmem
      rw [String.toList_ofList] at hproper
      exact absurd hproper hname

/-- The template of a rule whose pattern has named groups. -/
lemma CompiledRule.template_eq (hc : ofRule index rule variant wholeWords = .ok c)
    (hkeeps : rule.deletes = false) (hnames : c.regex.groupNames ≠ []) :
    c.template = .ofChars (templateText c.regex.groupCount true
      (rule.variant variant).replacement.toList) := by
  obtain ⟨flags, regex, -, -, rfl⟩ := ofRule_eq_ok_iff.mp hc
  have hkeeps' : (rule.variant variant).deletes = false := by
    cases variant <;> exact hkeeps
  have hsome : (!regex.groupNames.isEmpty) = true := by simpa using hnames
  rw [templateOf, hkeeps', hsome]
  rfl

/-- A reference that the template looks up. -/
lemma CompiledRule.expandPiece_name (text : Array Char) (m : Match) (name : List Char) :
    Template.expandPiece (fun n => (m.group? n).map fun g => between text g.1 g.2)
        (fun name => c.regex.groupNames.lookup name) (.group (.name name))
      = c.namedText text m name := by
  rw [namedText, Template.expandPiece]
  cases c.regex.groupNames.lookup (.ofList name) <;> rfl

/-- **When a reference by name inserts what it stands for**: the text of the group with that name,
or nothing if there is none.  It does if the name has no brace that closes in it, and if it either
cannot be read as a number or is the number of a group without text in the match.  The names that
groups can have are all of this kind.  Otherwise the name ends at the brace, or the group is found
by its number. -/
theorem CompiledRule.expansion_namedRef_iff
    (hc : ofRule index rule variant wholeWords = .ok c) (hkeeps : rule.deletes = false)
    (hnames : c.regex.groupNames ≠ []) {before name after : List Char}
    (hreplacement : (rule.variant variant).replacement.toList = before ++ namedRef name ++ after)
    (hbefore : '$' ∉ before) (hafter : '$' ∉ after) (hdollar : '$' ∉ name) (hend : '>' ∉ name)
    (text : Array Char) (m : Match) :
    c.expansion text m = before ++ c.namedText text m name ++ after ↔
      '}' ∉ name ∧ ∀ n, readNumber? name = some n → groupText text m n = [] := by
  rw [expansion, template_eq hc hkeeps hnames, hreplacement]
  by_cases hbrace : '}' ∈ name
  · -- the template goes on to write at least the brace
    obtain ⟨part, rest, hname, hpart⟩ := List.eq_append_cons_of_mem hbrace
    have hnil := namedText_eq_nil hc (fun hproper => hproper.notMem_brace hbrace) text m
    rw [expand_templateText_namedRef_brace _ _ hbefore hafter hend hname hpart hdollar, hnil]
    simp only [hbrace, not_true_eq_false, false_and, iff_false]
    intro heq
    have hlen := congrArg List.length heq
    simp only [List.length_append, List.length_cons, List.length_nil] at hlen
    omega
  · rw [expand_templateText_namedRef _ _ hbefore hafter hend hbrace]
    simp only [List.append_cancel_right_eq, List.append_cancel_left_eq, hbrace, not_false_eq_true,
      true_and]
    cases hnumber : readNumber? name with
    | none =>
        rw [GroupRef.ofChars, hnumber]
        dsimp only
        rw [expandPiece_name]
        simp
    | some n =>
        have hnil := namedText_eq_nil hc (fun hproper => by
          rw [readNumber?_eq_none hproper] at hnumber
          cases hnumber) text m
        rw [GroupRef.ofChars, hnumber, hnil]
        simp [Template.expandPiece, groupText]

/-- The second of two names, one of which begins the other. -/
theorem CompiledRule.expansion_namedRef_second :
    let rule : Rule := { pattern := "(?<_>a)?(?<__>b)", replacement := "[$<__>]" }
    let text := "ab".toList.toArray
    ∃ c m, ofRule 0 rule .asWritten false = .ok c ∧ c.regex.find text = [m] ∧
      rule.deletes = false ∧ c.regex.groupNames ≠ [] ∧
      (rule.variant .asWritten).replacement.toList = ['['] ++ namedRef ['_', '_'] ++ [']'] ∧
      ('$' ∉ ['['] ∧ '$' ∉ [']'] ∧ '$' ∉ ['_', '_'] ∧ '>' ∉ ['_', '_']) ∧
      c.expansion text m = "[b]".toList := by
  intro rule text
  let m : Match := ⟨0, 2, [(5, 2), (4, 1), (3, 1), (2, 0)]⟩
  obtain ⟨c, hc, hfacts⟩ : ∃ c, ofRule 0 rule .asWritten false = .ok c ∧
      (c.regex.find text, c.regex.groupNames, c.namedText text m ['_', '_'])
        = ([m], [("_", 1), ("__", 2)], ['b']) := exists_of_map_ofRule (by decide +kernel)
  obtain ⟨hfind, hnames, hnamed⟩ : c.regex.find text = [m] ∧
      c.regex.groupNames = [("_", 1), ("__", 2)] ∧ c.namedText text m ['_', '_'] = ['b'] := by
    simpa only [Prod.mk.injEq] using hfacts
  have hne : c.regex.groupNames ≠ [] := by simp [hnames]
  have hreplacement : (rule.variant .asWritten).replacement.toList
      = ['['] ++ namedRef ['_', '_'] ++ [']'] := by decide
  have hsigns : '$' ∉ ['['] ∧ '$' ∉ [']'] ∧ '$' ∉ ['_', '_'] ∧ '>' ∉ ['_', '_'] := by decide
  have hwritten := (expansion_namedRef_iff hc rfl hne hreplacement hsigns.1 hsigns.2.1
    hsigns.2.2.1 hsigns.2.2.2 text m).mpr ⟨by decide, fun n hn => absurd hn (by simp [readNumber?])⟩
  rw [hnamed] at hwritten
  exact ⟨c, m, hc, hfind, rfl, hne, hreplacement, hsigns, hwritten⟩

/-- No group has the number or the brace as its name, but the second group is inserted by its
number, and what stands before the brace is taken for the name of the first. -/
theorem CompiledRule.expansion_namedRef_misread :
    let numbered : Rule := { pattern := "(?<_>a)(b)", replacement := "[$<2>]" }
    let braced : Rule := { pattern := "(?<_>a)(b)", replacement := "[$<_\x7dx>]" }
    let text := "ab".toList.toArray
    (∃ c m, ofRule 0 numbered .asWritten false = .ok c ∧ c.regex.find text = [m] ∧
      c.regex.groupNames = [("_", 1)] ∧ c.expansion text m = "[b]".toList ∧
      c.expansion text m ≠ ['['] ++ c.namedText text m ['2'] ++ [']']) ∧
    ∃ c m, ofRule 0 braced .asWritten false = .ok c ∧ c.regex.find text = [m] ∧
      c.regex.groupNames = [("_", 1)] ∧ c.expansion text m = "[ax\x7d]".toList ∧
      c.expansion text m ≠ ['['] ++ c.namedText text m ['_', '}', 'x'] ++ [']'] := by
  intro numbered braced text
  let m : Match := ⟨0, 2, [(5, 2), (4, 1), (3, 1), (2, 0)]⟩
  have hrun : ∀ (rule : Rule) (name written : List Char),
      (ofRule 0 rule .asWritten false).map (fun c => (c.regex.find text, c.regex.groupNames,
        c.expansion text m, c.namedText text m name)) = .ok ([m], [("_", 1)], written, []) →
      written ≠ ['[', ']'] →
      ∃ c m, ofRule 0 rule .asWritten false = .ok c ∧ c.regex.find text = [m] ∧
        c.regex.groupNames = [("_", 1)] ∧ c.expansion text m = written ∧
        c.expansion text m ≠ ['['] ++ c.namedText text m name ++ [']'] := by
    intro rule name written hmap hne
    obtain ⟨c, hc, hfacts⟩ := exists_of_map_ofRule hmap
    simp only [Prod.mk.injEq] at hfacts
    obtain ⟨hfind, hnames, hwritten, hnamed⟩ := hfacts
    refine ⟨c, m, hc, hfind, hnames, hwritten, ?_⟩
    rw [hwritten, hnamed]
    exact hne
  exact ⟨hrun numbered ['2'] _ (by decide +kernel) (by decide),
    hrun braced ['_', '}', 'x'] _ (by decide +kernel) (by decide)⟩

end

end Scratchpad.Replace
