import Scratchpad.Rule.Basic

/-!
# Reading a rule file

A rule file is any text with rules in it; what stands between the rules is skipped.  A rule opens
with a quote.  Its pattern goes on to the first quote behind which the rule can be completed: flag
letters, an arrow, which may stand on a line of its own, a quoted replacement and more flag letters.
The replacement ends at the very next quote.

* `readClosing?` — all of a rule that follows its pattern.
* `readRule?` — a rule behind its opening quote, trying the nearest closing quote first.
* `readRules` — every rule of a text, in order.
* `Rule.readAll` — the same for a string.
-/

namespace Scratchpad.Rule

/-- Flags are lower-case ASCII letters. -/
def isFlagLetter (c : Char) : Bool := 'a' ≤ c && c ≤ 'z'

/-- The text without one line break at its beginning. -/
def dropBreak : List Char → List Char
  | '\r' :: '\n' :: cs => cs
  | '\n' :: cs => cs
  | cs => cs

/-- What follows the arrow and the opening quote of the replacement. -/
def afterArrow? (cs : List Char) : Option (List Char) :=
  match dropBreak cs with
  | '-' :: '>' :: cs =>
    match dropBreak cs with
    | '"' :: body => some body
    | _ => none
  | _ => none

/-- The parts of a rule as they were read, and the text behind the rule. -/
structure Reading where
  pattern : List Char
  patternFlags : List Char
  replacement : List Char
  replacementFlags : List Char
  rest : List Char
  deriving DecidableEq

/-- The rule that was read. -/
def Reading.rule (r : Reading) : Rule :=
  ⟨.ofList r.pattern, .ofList r.patternFlags, .ofList r.replacement, .ofList r.replacementFlags⟩

/-- Read what follows the closing quote of the pattern.  A line break behind the rule belongs
to it. -/
def readClosing? (cs : List Char) : Option Reading :=
  match afterArrow? (cs.dropWhile isFlagLetter) with
  | none => none
  | some body =>
    match body.dropWhile (· != '"') with
    | [] => none
    | _ :: tail => some
        { pattern := []
          patternFlags := cs.takeWhile isFlagLetter
          replacement := body.takeWhile (· != '"')
          replacementFlags := tail.takeWhile isFlagLetter
          rest := dropBreak (tail.dropWhile isFlagLetter) }

/-- Read a rule behind its opening quote.  The pattern ends at the first quote that lets the rule
be completed, so it may hold quotes itself. -/
def readRule? : List Char → Option Reading
  | [] => none
  | c :: cs =>
    match if c = '"' then readClosing? cs else none with
    | some r => some r
    | none => (readRule? cs).map fun r => { r with pattern := c :: r.pattern }

/-! ## A rule takes up room -/

theorem length_dropBreak_le (cs : List Char) : (dropBreak cs).length ≤ cs.length := by
  unfold dropBreak
  split <;> simp
  omega

theorem length_afterArrow?_le {cs body : List Char} (h : afterArrow? cs = some body) :
    body.length ≤ cs.length := by
  unfold afterArrow? at h
  split at h
  · next tail hb =>
    split at h
    · next hb' =>
      have h1 := length_dropBreak_le cs
      have h2 := length_dropBreak_le tail
      simp_all
      omega
    · cases h
  · cases h

theorem length_rest_readClosing? {cs : List Char} {r : Reading} (h : readClosing? cs = some r) :
    r.rest.length ≤ cs.length := by
  unfold readClosing? at h
  split at h
  · cases h
  · next body hb =>
    split at h
    · cases h
    · next c tail ht =>
      cases h
      have h1 := length_afterArrow?_le hb
      have h2 := (List.dropWhile_suffix isFlagLetter (l := cs)).length_le
      have h3 := (List.dropWhile_suffix (· != '"') (l := body)).length_le
      have h4 := (List.dropWhile_suffix isFlagLetter (l := tail)).length_le
      have h5 := length_dropBreak_le (tail.dropWhile isFlagLetter)
      rw [ht, List.length_cons] at h3
      show (dropBreak (tail.dropWhile isFlagLetter)).length ≤ cs.length
      omega

theorem length_rest_readRule? {cs : List Char} {r : Reading} (h : readRule? cs = some r) :
    r.rest.length ≤ cs.length := by
  induction cs generalizing r with
  | nil => cases h
  | cons c cs ih =>
    unfold readRule? at h
    split at h
    · next r' hr =>
      cases h
      split at hr
      · have := length_rest_readClosing? hr
        simp
        omega
      · cases hr
    · obtain ⟨r', hr', rfl⟩ := Option.map_eq_some_iff.1 h
      have := ih hr'
      simp
      omega

/-! ## The whole file -/

/-- Every rule of the text.  What can close a rule that opens at a later quote can close one that
opens at an earlier quote too, so the first quote that opens no rule is the last to be tried. -/
def readRules : List Char → List Rule
  | [] => []
  | c :: cs =>
    if c = '"' then
      match _h : readRule? cs with
      | some r => r.rule :: readRules r.rest
      | none => []
    else readRules cs
  termination_by cs => cs.length
  decreasing_by
    · have := length_rest_readRule? _h
      simp
      omega
    · simp

/-- Every rule of a rule file, in order. -/
def readAll (text : String) : List Rule := readRules text.toList

end Scratchpad.Rule
