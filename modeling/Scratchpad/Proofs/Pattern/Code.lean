import Scratchpad.Proofs.Pattern.Runs
import Scratchpad.Proofs.Pattern.Ways

/-!
# The code of an expression

The code of a plain expression, wherever it stands in a program, goes through the matches of the
expression in the order in which they are preferred.

* `CodeAt` — some instructions stand in a program from an address on.
* `Leads` — from one address the program comes to another one in the given ways.
* `Leads.trans`, `Leads.chars`, `Leads.split`, … — one lemma for each way to put code together.
* `Leads.loop` — a loop around what takes a character.
* **`Leads.code`** — the code of a plain expression.
-/

namespace Scratchpad.Pattern

/-- Some instructions stand in a program from an address on. -/
def CodeAt (program : Array Instr) (start : ℕ) (code : List Instr) : Prop :=
  ∀ k i, code[k]? = some i → program[start + k]? = some i

namespace CodeAt

variable {program : Array Instr} {start : ℕ} {a b : List Instr} {i : Instr}

lemma head (h : CodeAt program start (i :: a)) : program[start]? = some i := h 0 i rfl

lemma tail (h : CodeAt program start (i :: a)) : CodeAt program (start + 1) a := by
  intro k j hj
  rw [Nat.add_assoc, Nat.add_comm 1 k]
  exact h (k + 1) j hj

lemma left (h : CodeAt program start (a ++ b)) : CodeAt program start a := by
  intro k j hj
  obtain ⟨hlt, -⟩ := List.getElem?_eq_some_iff.mp hj
  exact h k j (by rw [List.getElem?_append_left hlt, hj])

lemma right (h : CodeAt program start (a ++ b)) : CodeAt program (start + a.length) b := by
  intro k j hj
  rw [Nat.add_assoc]
  refine h (a.length + k) j ?_
  rw [List.getElem?_append_right (by omega), Nat.add_sub_cancel_left, hj]

end CodeAt

/-- The thread at an address that has come to a spot. -/
def Spot.thread (s : Spot) (address : ℕ) : Thread := ⟨address, s.place, s.marks⟩

section

variable (program : Array Instr) (text : Array Char)

/-- From the address `a` and the spot `s` on, the program comes to the address `b` at the spots of
the list, in this order, and every other way ends. -/
def Leads (a : ℕ) (s : Spot) (b : ℕ) (spots : List Spot) : Prop :=
  ∀ K : Spot → List Thread, (∀ s' ∈ spots, Runs program text (s'.thread b) (K s')) →
    Runs program text (s.thread a) (spots.flatMap K)

end

namespace Leads

variable {program : Array Instr} {text : Array Char} {a b c : ℕ} {s : Spot} {L M : List Spot}

lemma refl (a : ℕ) (s : Spot) : Leads program text a s a [s] := by
  intro K hK
  simpa using hK s (List.mem_singleton_self s)

/-- One stretch of code behind another. -/
lemma trans {g : Spot → List Spot} (hab : Leads program text a s b L)
    (hbc : ∀ s' ∈ L, Leads program text b s' c (g s')) :
    Leads program text a s c (L.flatMap g) := by
  intro K hK
  rw [List.flatMap_assoc]
  exact hab _ fun s' hs' => hbc s' hs' K fun t ht => hK t (List.mem_flatMap.mpr ⟨s', hs', ht⟩)

/-- An instruction with one successor, or none. -/
lemma of_successors {ts : List Spot} (hts : (s.thread a).successors program text
    = some (ts.map (·.thread b))) (ha : a < program.size) : Leads program text a s b ts := by
  intro K hK
  rw [List.flatMap_def]
  refine Runs.of_successors hts ha ?_
  rw [List.forall₂_map_left_iff, List.forall₂_map_right_iff, List.forall₂_same]
  exact hK

lemma chars {set : Unicode.CharSet} (h : program[a]? = some (.chars set)) (s : Spot) :
    Leads program text a s (a + 1) ((Expr.chars set).ways text s) := by
  obtain ⟨ha, -⟩ := Array.getElem?_eq_some_iff.mp h
  refine of_successors ?_ ha
  simp only [Thread.successors, Spot.thread, h, Expr.ways]
  cases text[s.place]? with
  | none => rfl
  | some c =>
      dsimp only
      split <;> rfl

lemma look {l : Look} (h : program[a]? = some (.look l)) (s : Spot) :
    Leads program text a s (a + 1) ((Expr.look l).ways text s) := by
  obtain ⟨ha, -⟩ := Array.getElem?_eq_some_iff.mp h
  refine of_successors ?_ ha
  by_cases hl : l.holds (before? text s.place) text[s.place]? <;>
    simp [Thread.successors, Spot.thread, h, Expr.ways, hl]

lemma mark {slot : ℕ} (h : program[a]? = some (.mark slot)) (s : Spot) :
    Leads program text a s (a + 1) [s.mark slot] := by
  obtain ⟨ha, -⟩ := Array.getElem?_eq_some_iff.mp h
  exact of_successors (by simp [Thread.successors, Spot.thread, h, Spot.mark]) ha

lemma jump {target : ℕ} (h : program[a]? = some (.jump target)) (s : Spot) :
    Leads program text a s target [s] := by
  obtain ⟨ha, -⟩ := Array.getElem?_eq_some_iff.mp h
  exact of_successors (by simp [Thread.successors, Spot.thread, h]) ha

/-- A choice: what the first way leads to comes first. -/
lemma split {first second : ℕ} (h : program[a]? = some (.split first second))
    (hfirst : Leads program text first s b L) (hsecond : Leads program text second s b M) :
    Leads program text a s b (L ++ M) := by
  obtain ⟨ha, -⟩ := Array.getElem?_eq_some_iff.mp h
  intro K hK
  have hts : (s.thread a).successors program text = some [s.thread first, s.thread second] := by
    simp [Thread.successors, Spot.thread, h]
  have hboth := Runs.of_successors hts ha <|
    .cons (hfirst K fun s' hs' => hK s' (List.mem_append_left M hs')) <|
    .cons (hsecond K fun s' hs' => hK s' (List.mem_append_right L hs')) .nil
  simpa [List.flatMap_append] using hboth

/-- The choice of a repetition. -/
lemma branch {greedy : Bool} {inside behind : ℕ}
    (h : program[a]? = some (Pattern.branch greedy inside behind))
    (hinside : Leads program text inside s b L) (hbehind : Leads program text behind s b M) :
    Leads program text a s b (if greedy then L ++ M else M ++ L) := by
  cases greedy with
  | true => exact split h hinside hbehind
  | false => exact split h hbehind hinside

/-! ## Repetitions -/

section

variable {f : Spot → List Spot} {body : ℕ → List Instr} {size : ℕ}

/-- What is needed of the code of the body of a repetition: it has one length, and wherever it
stands it leads from its beginning to its end in the ways of the body. -/
structure Body (program : Array Instr) (text : Array Char) (body : ℕ → List Instr) (size : ℕ)
    (f : Spot → List Spot) : Prop where
  length : ∀ start, (body start).length = size
  leads : ∀ start s, CodeAt program start (body start) →
    Leads program text start s (start + size) (f s)

lemma length_copies (hlen : ∀ start, (body start).length = size) (n start : ℕ) :
    (copies body n start).length = n * size := by
  induction n generalizing start with
  | zero => simp [copies]
  | succ n ih =>
      rw [copies, List.length_append, ih, hlen, Nat.succ_mul, Nat.add_comm]

lemma copies (hbody : Body program text body size f) {n start : ℕ}
    (h : CodeAt program start (Pattern.copies body n start)) (s : Spot) :
    Leads program text start s (start + n * size) (times f n s) := by
  induction n generalizing start s with
  | zero => simpa [times] using refl start s
  | succ n ih =>
      rw [Pattern.copies] at h
      have hrest := h.right
      rw [hbody.length] at hrest
      have hend : start + (n + 1) * size = start + size + n * size := by
        rw [Nat.succ_mul]
        omega
      rw [hend]
      exact (hbody.leads start s h.left).trans fun s' _ => ih (hbody.length start ▸ hrest) s'

lemma length_optionals (hlen : ∀ start, (body start).length = size) (greedy : Bool)
    (stop n start : ℕ) : (optionals body greedy stop n start).length = n * (size + 1) := by
  induction n generalizing start with
  | zero => simp [optionals]
  | succ n ih =>
      rw [optionals, List.length_cons, List.length_append, ih, hlen, Nat.succ_mul]
      omega

lemma optionals (hbody : Body program text body size f) {greedy : Bool} {stop n start : ℕ}
    (hstop : stop = start + n * (size + 1))
    (h : CodeAt program start (Pattern.optionals body greedy stop n start)) (s : Spot) :
    Leads program text start s stop (upTo f greedy n s) := by
  induction n generalizing start s with
  | zero =>
      rw [hstop, Nat.zero_mul]
      exact refl start s
  | succ n ih =>
      rw [Pattern.optionals] at h
      have hrest := h.tail.right
      rw [hbody.length] at hrest
      have hstop' : stop = start + 1 + size + n * (size + 1) := by
        rw [hstop, Nat.succ_mul]
        omega
      have hinside := (hbody.leads (start + 1) s h.tail.left).trans fun s' _ => ih hstop' hrest s'
      exact branch h.head hinside (refl stop s)

/-- **A loop around what takes a character**, entered at the choice.  No more rounds are possible
than there are characters left. -/
theorem loop {greedy : Bool} {choice inside behind : ℕ}
    (h : program[choice]? = some (Pattern.branch greedy inside behind))
    (hinside : ∀ s, Leads program text inside s choice (f s))
    (hf : ∀ s, ∀ s' ∈ f s, s.place < s'.place ∧ s'.place ≤ max s.place text.size)
    {rounds : ℕ} {s : Spot} (hs : text.size - s.place ≤ rounds) :
    Leads program text choice s behind (upTo f greedy rounds s) := by
  induction rounds generalizing s with
  | zero =>
      have hnone : f s = [] := by
        refine List.eq_nil_iff_forall_not_mem.mpr fun s' hs' => ?_
        have := hf s s' hs'
        omega
      have hround := (hnone ▸ hinside s).trans (c := behind) (g := fun t => [t]) (by simp)
      have := branch h hround (refl behind s)
      cases greedy <;> simpa [upTo] using this
  | succ rounds ih =>
      have hround := (hinside s).trans fun s' hs' => ih (by have := hf s s' hs'; omega)
      exact branch h hround (refl behind s)

/-- The length of the code of a repetition. -/
def repeatSize (size least : ℕ) : Option ℕ → ℕ
  | some most => least * size + (most - least) * (size + 1)
  | none => match least with
    | 0 => size + 2
    | n + 1 => n * size + (size + 1)

lemma length_repeatCode (hlen : ∀ start, (body start).length = size) (least : ℕ) (most : Option ℕ)
    (greedy takesSomething : Bool) (start : ℕ) :
    (repeatCode body least most greedy takesSomething start).length
      = repeatSize size least most := by
  cases most with
  | some most => simp [repeatCode, repeatSize, length_copies hlen, length_optionals hlen]
  | none =>
      cases least with
      | zero => cases takesSomething <;> simp [repeatCode, repeatSize, zeroOrMore, oneOrMore, hlen]
      | succ n => simp [repeatCode, repeatSize, oneOrMore, length_copies hlen, hlen]

/-- The last of some steps comes last. -/
lemma times_succ_eq (n : ℕ) (s : Spot) : times f (n + 1) s = (times f n s).flatMap f := by
  induction n generalizing s with
  | zero => simp [times]
  | succ n ih =>
      rw [times, times, List.flatMap_assoc]
      exact List.flatMap_congr fun s' _ => ih s'

/-- **The code of a repetition**, which must take something if it is not limited. -/
theorem repeatCode (hbody : Body program text body size f) {least : ℕ} {most : Option ℕ}
    {greedy takesSomething : Bool} (htakes : most = none → takesSomething = true)
    (hf : most = none → ∀ s, ∀ s' ∈ f s, s.place < s'.place ∧ s'.place ≤ max s.place text.size)
    {start : ℕ}
    (h : CodeAt program start (Pattern.repeatCode body least most greedy takesSomething start))
    (s : Spot) :
    Leads program text start s (start + repeatSize size least most)
      ((times f least s).flatMap fun s' =>
        upTo f greedy (most.elim (text.size - s'.place) (· - least)) s') := by
  cases most with
  | some most =>
      simp only [Pattern.repeatCode, length_copies hbody.length, hbody.length] at h
      have hoptionals := h.right
      rw [length_copies hbody.length] at hoptionals
      have hstop : start + repeatSize size least (some most)
          = start + least * size + (most - least) * (size + 1) := by
        simp only [repeatSize]
        omega
      exact (copies hbody h.left s).trans fun s' _ =>
        optionals hbody hstop (hstop ▸ hoptionals) s'
  | none =>
      cases least with
      | zero =>
          simp only [Pattern.repeatCode, zeroOrMore, htakes rfl, if_pos, hbody.length] at h
          have hjump := h.tail.right
          rw [hbody.length] at hjump
          have hinside (s : Spot) : Leads program text (start + 1) s start (f s) := by
            have := (hbody.leads (start + 1) s h.tail.left).trans fun s' _ => jump hjump.head s'
            simpa using this
          have hloop : Leads program text start s (start + (size + 2))
              (upTo f greedy (text.size - s.place) s) := loop h.head hinside (hf rfl) le_rfl
          simpa [times, repeatSize] using hloop
      | succ n =>
          simp only [Pattern.repeatCode, oneOrMore, length_copies hbody.length, hbody.length] at h
          have hone := h.right
          rw [length_copies hbody.length] at hone
          have hchoice := hone.right.head
          rw [hbody.length] at hchoice
          have hinside := fun s => hbody.leads _ s hone.left
          have hend : start + repeatSize size (n + 1) none = start + n * size + size + 1 := by
            simp only [repeatSize]
            omega
          rw [times_succ_eq, List.flatMap_assoc, hend]
          exact (copies hbody h.left s).trans fun s' _ =>
            (hinside s').trans fun t _ => loop hchoice hinside (hf rfl) le_rfl

end

/-! ## Expressions -/

/-- The length of the code does not depend on where it stands. -/
lemma length_code (e : Expr) (start : ℕ) : (e.code start).length = (e.code 0).length := by
  induction e generalizing start with
  | empty | chars set | look l => rfl
  | capture index name e ih => simp [Expr.code, ih (start + 1), ih (0 + 1)]
  | concat a b iha ihb => simp only [Expr.code, List.length_append, iha start, ihb]
  | alternation a b iha ihb =>
      simp only [Expr.code, List.length_cons, List.length_append, iha (start + 1), iha (0 + 1), ihb]
  | repetition least most greedy e ih =>
      rw [Expr.code, Expr.code, length_repeatCode ih, length_repeatCode ih]

/-- **The code of a plain expression** goes through its matches in the order of preference. -/
theorem code {e : Expr} (he : e.IsPlain) {start : ℕ} (h : CodeAt program start (e.code start))
    (s : Spot) :
    Leads program text start s (start + (e.code 0).length) (e.ways text s) := by
  induction e generalizing start s with
  | empty => exact refl start s
  | chars set => exact chars h.head s
  | look l => exact look h.head s
  | capture index name e ih =>
      have hclose := h.tail.right.head
      rw [length_code] at hclose
      have hinner := ih he h.tail.left (s.mark (2 * index))
      have hopen := (mark h.head s).trans (g := fun s' => e.ways text s') fun s' hs' => by
        rw [List.mem_singleton.mp hs']
        exact hinner
      have hall := hopen.trans fun s' _ => mark hclose s'
      have hend : start + ((Expr.capture index name e).code 0).length
          = start + 1 + (e.code 0).length + 1 := by
        simp only [Expr.code, List.length_cons, List.length_append, length_code e (0 + 1),
          List.length_nil]
        omega
      rw [hend, Expr.ways, List.map_eq_flatMap]
      simpa using hall
  | concat a b iha ihb =>
      have hright := h.right
      rw [length_code a] at hright
      have hend : start + ((Expr.concat a b).code 0).length
          = start + (a.code 0).length + (b.code 0).length := by
        simp only [Expr.code, List.length_append, length_code b (0 + _)]
        omega
      rw [hend, Expr.ways]
      exact (iha he.1 h.left s).trans fun s' _ => ihb he.2 hright s'
  | alternation a b iha ihb =>
      have hjump := h.tail.right.head
      have hsecond := h.tail.right.tail
      simp only [length_code a, length_code b] at hjump hsecond
      have hend : start + ((Expr.alternation a b).code 0).length
          = start + (a.code 0).length + 2 + (b.code 0).length := by
        simp only [Expr.code, List.length_cons, List.length_append, length_code a (0 + 1),
          length_code b (0 + _ + 2)]
        omega
      have hfirst := (iha he.1 h.tail.left s).trans fun s' _ => jump hjump s'
      rw [List.flatMap_singleton'] at hfirst
      have hsplit := h.head
      rw [length_code a] at hsplit
      have hat : CodeAt program (start + (a.code 0).length + 2)
          (b.code (start + (a.code 0).length + 2)) := by
        convert hsecond using 1
        omega
      rw [hend, Expr.ways]
      exact split hsplit hfirst (ihb he.2 hat s)
  | repetition least most greedy e ih =>
      have hbody : Body program text e.code (e.code 0).length (e.ways text) :=
        ⟨length_code e, fun start s hat => ih he.1 hat s⟩
      have hend : ((Expr.repetition least most greedy e).code 0).length
          = repeatSize (e.code 0).length least most := by
        rw [Expr.code, length_repeatCode (length_code e)]
      rw [hend]
      exact repeatCode hbody he.2 (fun hmost s s' hs' =>
        ⟨Expr.place_lt_of_takesSomething (he.2 hmost) hs', e.place_le_max hs'⟩) h s

end Leads

end Scratchpad.Pattern
