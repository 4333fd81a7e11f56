import Scratchpad.Proofs.Pattern.Code

/-!
# Where a thread can come to

A thread goes through a program step by step.  What each step preserves holds wherever a thread can
come to, also in a program whose loops read nothing.

* `Thread.Step`, `Thread.Reaches` — a thread goes on to another one.
* `Match.IsWay` — a match is the way of a thread that is accepted.
* `StaysIn`, `staysIn_code` — the code of an expression is left only at its end.
* `Between` — how far a thread has come in a program between two conditions.
* **`holds_of_isWay`** — a match of such a program begins where the first condition holds, and ends
  where the second one does.
-/

namespace Scratchpad.Pattern

section

variable (program : Array Instr) (text : Array Char)

/-- A thread goes on to another one. -/
def Thread.Step (t s : Thread) : Prop := ∃ next, t.successors program text = some next ∧ s ∈ next

/-- A thread comes to another one in any number of steps. -/
def Thread.Reaches (t s : Thread) : Prop := Relation.ReflTransGen (Thread.Step program text) t s

end

variable {program : Array Instr} {text : Array Char}

/-! ## Matches as ways of threads -/

/-- The match that an accepted thread has made. -/
def Thread.toMatch (start : ℕ) (t : Thread) : Match := ⟨start, t.place, t.marks⟩

/-- The match is the way of a thread from its own beginning. -/
def Match.IsWay (program : Array Instr) (text : Array Char) (m : Match) : Prop :=
  ∃ t : Thread, (⟨0, m.start, []⟩ : Thread).Reaches program text t ∧
    t.successors program text = none ∧ m = t.toMatch m.start

/-! ## Steps and instructions -/

/-- The addresses at which an instruction lets a thread go on. -/
def Instr.targets (address : ℕ) : Instr → List ℕ
  | .chars _ | .look _ | .mark _ => [address + 1]
  | .split first second => [first, second]
  | .jump target => [target]
  | .accept => []

/-- A step goes to a target of its instruction. -/
lemma Thread.Step.mem_targets {t s : Thread} (h : t.Step program text s) {i : Instr}
    (hi : program[t.address]? = some i) : s.address ∈ i.targets t.address := by
  obtain ⟨next, hnext, hs⟩ := h
  unfold successors at hnext
  rw [hi] at hnext
  cases i with
  | chars set =>
      cases hc : text[t.place]? with
      | none =>
          rw [hc] at hnext
          cases hnext
          cases hs
      | some c =>
          simp only [hc, Option.some.injEq] at hnext
          subst hnext
          split at hs
          · simp [List.mem_singleton.mp hs, Instr.targets]
          · cases hs
  | look l =>
      simp only [Option.some.injEq] at hnext
      subst hnext
      split at hs
      · simp [List.mem_singleton.mp hs, Instr.targets]
      · cases hs
  | split first second =>
      cases hnext
      simp only [List.mem_cons, List.not_mem_nil, or_false] at hs
      rcases hs with rfl | rfl <;> simp [Instr.targets]
  | jump target =>
      cases hnext
      simp [List.mem_singleton.mp hs, Instr.targets]
  | mark slot =>
      cases hnext
      simp [List.mem_singleton.mp hs, Instr.targets]
  | accept => cases hnext

/-- Past a condition a thread goes only where the condition holds. -/
lemma Thread.Step.look {t s : Thread} (h : t.Step program text s) {l : Look}
    (hi : program[t.address]? = some (.look l)) :
    l.holds (before? text t.place) text[t.place]? = true ∧
      s = { t with address := t.address + 1 } := by
  obtain ⟨next, hnext, hs⟩ := h
  unfold successors at hnext
  simp only [hi, Option.some.injEq] at hnext
  subst hnext
  split at hs
  · next hl => exact ⟨hl, List.mem_singleton.mp hs⟩
  · cases hs

/-- Only the last instruction of a program accepts. -/
lemma Thread.accept_of_successors {t : Thread} (h : t.successors program text = none) :
    program[t.address]? = some .accept := by
  unfold successors at h
  cases hi : program[t.address]? with
  | none =>
      rw [hi] at h
      cases h
  | some i =>
      rw [hi] at h
      cases i with
      | accept => rfl
      | chars set => cases hc : text[t.place]? <;> simp [hc] at h
      | look l => simp at h
      | split first second => cases h
      | jump target => cases h
      | mark slot => cases h

/-! ## Code that stays where it is -/

/-- Code that stands at the address `start`, accepts nothing, and leads to no address but those from
`low` to `high`. -/
def StaysIn (low high start : ℕ) (code : List Instr) : Prop :=
  ∀ (k : ℕ) (i : Instr), code[k]? = some i →
    i ≠ .accept ∧ ∀ a ∈ i.targets (start + k), low ≤ a ∧ a ≤ high

namespace StaysIn

variable {low high low' high' start size : ℕ} {a b : List Instr} {i : Instr} {body : ℕ → List Instr}

lemma nil : StaysIn low high start [] := by
  intro k i h
  cases h

lemma mono (h : StaysIn low high start a) (hlow : low' ≤ low) (hhigh : high ≤ high') :
    StaysIn low' high' start a := by
  intro k i hi
  obtain ⟨haccept, htargets⟩ := h k i hi
  refine ⟨haccept, fun t ht => ?_⟩
  obtain ⟨hle, hge⟩ := htargets t ht
  exact ⟨hlow.trans hle, hge.trans hhigh⟩

lemma cons (haccept : i ≠ .accept) (hi : ∀ t ∈ i.targets start, low ≤ t ∧ t ≤ high)
    (h : StaysIn low high (start + 1) a) : StaysIn low high start (i :: a) := by
  intro k j hj
  cases k with
  | zero =>
      cases hj
      exact ⟨haccept, hi⟩
  | succ k =>
      have := h k j hj
      rwa [Nat.add_assoc, Nat.add_comm 1 k] at this

lemma append (ha : StaysIn low high start a) (hb : StaysIn low high (start + a.length) b) :
    StaysIn low high start (a ++ b) := by
  intro k j hj
  by_cases hk : k < a.length
  · rw [List.getElem?_append_left hk] at hj
    exact ha k j hj
  · rw [List.getElem?_append_right (not_lt.mp hk)] at hj
    have := hb (k - a.length) j hj
    rwa [Nat.add_assoc, Nat.add_sub_cancel' (not_lt.mp hk)] at this

/-- The choice of a repetition. -/
lemma cons_branch {greedy : Bool} {inside behind : ℕ} (hinside : low ≤ inside ∧ inside ≤ high)
    (hbehind : low ≤ behind ∧ behind ≤ high) (h : StaysIn low high (start + 1) a) :
    StaysIn low high start (branch greedy inside behind :: a) := by
  refine cons ?_ ?_ h
  · cases greedy <;> simp [branch]
  · cases greedy <;> simp [branch, Instr.targets, hinside, hbehind]

section

variable (hlen : ∀ start, (body start).length = size)
  (hbody : ∀ start, StaysIn start (start + size) start (body start))

include hlen hbody

lemma copies (n start : ℕ) :
    StaysIn start (start + n * size) start (Pattern.copies body n start) := by
  induction n generalizing start with
  | zero => exact nil
  | succ n ih =>
      have hsize : (n + 1) * size = size + n * size := by rw [Nat.succ_mul, Nat.add_comm]
      rw [Pattern.copies, hsize]
      refine append ((hbody start).mono le_rfl (by omega)) ?_
      rw [hlen]
      exact (ih (start + size)).mono (by omega) (by omega)

lemma optionals {greedy : Bool} {stop n start : ℕ} (hstop : start + n * (size + 1) ≤ stop) :
    StaysIn start stop start (Pattern.optionals body greedy stop n start) := by
  induction n generalizing start with
  | zero => exact nil
  | succ n ih =>
      rw [Nat.succ_mul] at hstop
      rw [Pattern.optionals]
      refine cons_branch (by omega) (by omega) ?_
      refine append ((hbody (start + 1)).mono (by omega) (by omega)) ?_
      rw [hlen]
      exact (ih (by omega)).mono (by omega) le_rfl

lemma oneOrMore (greedy : Bool) (start : ℕ) :
    StaysIn start (start + size + 1) start (Pattern.oneOrMore body greedy start) := by
  rw [Pattern.oneOrMore, hlen]
  refine append ((hbody start).mono le_rfl (by omega)) ?_
  exact cons_branch (by omega) (by omega) nil

lemma zeroOrMore (greedy takesSomething : Bool) (start : ℕ) :
    StaysIn start (start + size + 2) start
      (Pattern.zeroOrMore body greedy takesSomething start) := by
  cases takesSomething with
  | true =>
      simp only [Pattern.zeroOrMore, if_true, hlen]
      refine cons_branch (by omega) (by omega) ?_
      refine append ((hbody (start + 1)).mono (by omega) (by omega)) ?_
      exact cons (by simp) (by simp [Instr.targets]; omega) nil
  | false =>
      have hsize : (Pattern.oneOrMore body greedy (start + 1)).length = size + 1 := by
        simp [Pattern.oneOrMore, hlen]
      simp only [Pattern.zeroOrMore, Bool.false_eq_true, if_false, hsize]
      refine cons_branch (by omega) (by omega) ?_
      exact (oneOrMore hlen hbody greedy (start + 1)).mono (by omega) (by omega)

/-- The code of a repetition stays where it is if the code of its body does. -/
lemma repeatCode (least : ℕ) (most : Option ℕ) (greedy takesSomething : Bool) (start : ℕ) :
    StaysIn start (start + Leads.repeatSize size least most) start
      (Pattern.repeatCode body least most greedy takesSomething start) := by
  cases most with
  | some most =>
      simp only [Pattern.repeatCode, Leads.repeatSize, hlen, Leads.length_copies hlen]
      refine append ((copies hlen hbody least start).mono le_rfl (by omega)) ?_
      rw [Leads.length_copies hlen]
      exact (optionals hlen hbody le_rfl).mono (by omega) (by omega)
  | none =>
      cases least with
      | zero => exact zeroOrMore hlen hbody greedy takesSomething start
      | succ n =>
          simp only [Pattern.repeatCode, Leads.repeatSize]
          refine append ((copies hlen hbody n start).mono le_rfl (by omega)) ?_
          rw [Leads.length_copies hlen]
          exact (oneOrMore hlen hbody greedy _).mono (by omega) (by omega)

end

end StaysIn

open Leads (length_code) in
/-- **The code of an expression is left only at its end**, whatever the expression. -/
theorem staysIn_code (e : Expr) (start : ℕ) :
    StaysIn start (start + (e.code 0).length) start (e.code start) := by
  induction e generalizing start with
  | empty => exact .nil
  | chars set =>
      rw [Expr.code]
      exact .cons (by simp) (by simp [Instr.targets]) .nil
  | look l =>
      rw [Expr.code]
      exact .cons (by simp) (by simp [Instr.targets]) .nil
  | capture index name e ih =>
      have hlen := length_code e (start + 1)
      simp only [Expr.code, List.length_cons, List.length_append, length_code e (0 + 1)]
      refine .cons (by simp) (by simp [Instr.targets]) ?_
      refine .append ((ih (start + 1)).mono (by omega) (by omega)) ?_
      exact .cons (by simp) (by simp [Instr.targets]; omega) .nil
  | concat a b iha ihb =>
      have hlen := length_code a start
      simp only [Expr.code, List.length_append, length_code b (0 + _)]
      refine .append ((iha start).mono le_rfl (by omega)) ?_
      exact (ihb _).mono (by omega) (by omega)
  | alternation a b iha ihb =>
      have hlen := length_code a (start + 1)
      simp only [Expr.code, List.length_cons, List.length_append, length_code a (0 + 1), hlen,
        length_code b (0 + _ + 2), length_code b (start + _ + 2)]
      refine .cons (by simp) (by simp [Instr.targets]; omega) ?_
      refine .append ((iha (start + 1)).mono (by omega) (by omega)) ?_
      refine .cons (by simp) (by simp [Instr.targets]; omega) ?_
      have hsecond : start + 1 + (a.code (start + 1)).length + 1
          = start + (a.code 0).length + 2 := by
        omega
      rw [hsecond]
      exact (ihb _).mono (by omega) (by omega)
  | repetition least most greedy e ih =>
      have hlen : ((Expr.repetition least most greedy e).code 0).length
          = Leads.repeatSize (e.code 0).length least most := by
        rw [Expr.code, Leads.length_repeatCode (length_code e)]
      rw [hlen]
      exact StaysIn.repeatCode (length_code e) ih least most greedy e.takesSomething start

/-! ## Code between two conditions -/

/-- The condition holds at a place of the text. -/
def Look.HoldsAt (text : Array Char) (place : ℕ) (l : Look) : Prop :=
  l.holds (before? text place) text[place]? = true

/-- How far a thread that began at the place `start` has come: it is at the first condition, or past
it in the code between, which takes `size` addresses, or past the second one. -/
inductive Between (text : Array Char) (first second : Look) (size start : ℕ) (t : Thread) : Prop
  | before (address : t.address = 0) (place : t.place = start)
  | inside (holds : first.HoldsAt text start) (low : 1 ≤ t.address) (high : t.address ≤ size + 1)
  | behind (holds : first.HoldsAt text start) (holds' : second.HoldsAt text t.place)
      (address : t.address = size + 2)

section

variable {first second : Look} {e : Expr} {start : ℕ} {t s : Thread}
  (hcode : CodeAt program 0 (.look first :: (e.code 1 ++ [.look second, .accept])))

include hcode

/-- Behind the code of the expression stands the second condition. -/
lemma codeAt_behind : CodeAt program ((e.code 0).length + 1) [.look second, .accept] := by
  have hbehind := hcode.tail.right
  rw [Leads.length_code] at hbehind
  convert hbehind using 1
  omega

/-- Between the two conditions stands the code of the expression, which leads nowhere else. -/
lemma exists_instr_between {address : ℕ} (hlow : 1 ≤ address)
    (hhigh : address ≤ (e.code 0).length) :
    ∃ i, program[address]? = some i ∧ i ≠ .accept ∧
      ∀ a ∈ i.targets address, 1 ≤ a ∧ a ≤ (e.code 0).length + 1 := by
  obtain ⟨k, rfl⟩ : ∃ k, address = 1 + k := ⟨address - 1, by omega⟩
  have hlt : k < (e.code 1).length := by
    rw [Leads.length_code]
    omega
  have hi := hcode.tail.left k _ (List.getElem?_eq_getElem hlt)
  obtain ⟨haccept, htargets⟩ := staysIn_code e 1 k _ (List.getElem?_eq_getElem hlt)
  rw [Nat.zero_add] at hi
  rw [Nat.add_comm 1 (e.code 0).length] at htargets
  exact ⟨_, hi, haccept, htargets⟩

/-- **One step** comes no further than the conditions allow. -/
lemma Between.step (h : Between text first second (e.code 0).length start t)
    (hstep : t.Step program text s) : Between text first second (e.code 0).length start s := by
  have hbehind := codeAt_behind hcode
  cases h with
  | before haddress hplace =>
      obtain ⟨hholds, rfl⟩ := hstep.look (by rw [haddress]; exact hcode.head)
      rw [hplace] at hholds
      exact .inside hholds (Nat.le_add_left _ _) (by simp [haddress])
  | inside hholds hlow hhigh =>
      by_cases hlast : t.address = (e.code 0).length + 1
      · obtain ⟨hholds', rfl⟩ := hstep.look (by rw [hlast]; exact hbehind.head)
        exact .behind hholds hholds' (by simp [hlast])
      · obtain ⟨i, hi, -, htargets⟩ := exists_instr_between hcode hlow (by omega)
        obtain ⟨hlow', hhigh'⟩ := htargets s.address (hstep.mem_targets hi)
        exact .inside hholds hlow' hhigh'
  | behind hholds hholds' haddress =>
      have haccept : program[t.address]? = some .accept := by
        rw [haddress]
        exact hbehind.tail.head
      exact absurd (hstep.mem_targets haccept) (List.not_mem_nil)

/-- **A whole way** comes no further than the conditions allow. -/
lemma between_of_reaches (h : (⟨0, start, []⟩ : Thread).Reaches program text t) :
    Between text first second (e.code 0).length start t := by
  induction h with
  | refl => exact .before rfl rfl
  | tail _ hstep ih => exact ih.step hcode hstep

/-- **Between two conditions**, a match begins where the first one holds, and ends where the second
one does, whatever the expression between them. -/
theorem holds_of_isWay {m : Match} (h : m.IsWay program text) :
    first.HoldsAt text m.start ∧ second.HoldsAt text m.stop := by
  obtain ⟨t, hreach, hnone, hm⟩ := h
  have hplace : m.stop = t.place := congrArg Match.stop hm
  have haccept := Thread.accept_of_successors hnone
  rw [hplace]
  cases between_of_reaches hcode hreach with
  | before haddress =>
      rw [haddress, hcode.head] at haccept
      cases haccept
  | inside _ hlow hhigh =>
      by_cases hlast : t.address = (e.code 0).length + 1
      · rw [hlast, (codeAt_behind hcode).head] at haccept
        cases haccept
      · obtain ⟨i, hi, hne, -⟩ := exists_instr_between hcode hlow (by omega)
        rw [haccept, Option.some.injEq] at hi
        exact absurd hi.symm hne
  | behind hholds hholds' => exact ⟨hholds, hholds'⟩

end

end Scratchpad.Pattern
