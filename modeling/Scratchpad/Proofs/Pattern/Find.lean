import Scratchpad.Proofs.Pattern.Successive

/-!
# The search finds the leftmost match, and there the preferred one

The ways of a plain expression all end, so that backtracking has no way to give up: what it finds is
what the expression means.

* `backtracks_of_ends`, `Runs.findsAt` — where every way ends, the first accepted thread is found.
* `Expr.matchAt`, `Expr.search` — the match at a place, and the leftmost one, by the meaning of an
  expression alone.
* **`searchFrom_program`** — the program of a plain expression finds that match.
* `Expr.search_eq_some_iff`, `Expr.search_eq_none_iff` — what is found, and when nothing is.
* `allMatches_empty` — the empty expression is found once at every place.
-/

namespace Scratchpad.Pattern

/-! ## The first of some places -/

lemma findSome?_range'_eq_some_iff {β : Type} {f : ℕ → Option β} {start n : ℕ} {b : β} :
    (List.range' start n).findSome? f = some b ↔
      ∃ p, start ≤ p ∧ p < start + n ∧ f p = some b ∧ ∀ q, start ≤ q → q < p → f q = none := by
  induction n generalizing start with
  | zero =>
      simp only [List.range'_zero, List.findSome?_nil, reduceCtorEq, false_iff]
      rintro ⟨p, hle, hlt, -⟩
      omega
  | succ n ih =>
      rw [List.range'_succ, List.findSome?_cons]
      cases hf : f start with
      | some c =>
          constructor
          · rintro ⟨⟩
            exact ⟨start, le_rfl, by omega, hf, fun q hle hlt => by omega⟩
          · rintro ⟨p, hle, -, hp, hnone⟩
            rcases hle.eq_or_lt with rfl | hlt
            · exact hf.symm.trans hp
            · rw [hnone start le_rfl hlt] at hf
              cases hf
      | none =>
          dsimp only
          rw [ih]
          constructor
          · rintro ⟨p, hle, hlt, hp, hnone⟩
            refine ⟨p, by omega, by omega, hp, fun q hqle hqlt => ?_⟩
            rcases hqle.eq_or_lt with rfl | hq
            · exact hf
            · exact hnone q hq hqlt
          · rintro ⟨p, hle, hlt, hp, hnone⟩
            rcases hle.eq_or_lt with rfl | hne
            · rw [hf] at hp
              cases hp
            · exact ⟨p, hne, by omega, hp, fun q hqle hqlt => hnone q (by omega) hqlt⟩

/-! ## Ways that end -/

section

variable {program : Array Instr} {text : Array Char} {passed : List (ℕ × ℕ)} {rest : List Trail}
  {found : Option Thread} {L : List Thread} {n place : ℕ}

/-- Where every way ends, backtracking finds the first accepted thread, and no way comes back to
where it has been. -/
lemma backtracks_of_ends {ts : List Thread} (hts : ∀ t ∈ ts, t.Ends program text n)
    (hpassed : ∀ t : Thread, t.site ∈ passed → ¬ t.Ends program text n)
    (h : Backtracks program text rest found) :
    Backtracks program text (ts.map (Trail.mk passed) ++ rest)
      ((ts.flatMap (Thread.accepted program text n)).head?.or found) := by
  -- on the number of steps left, which is less behind each thread than at it, and then along the
  -- threads
  induction n using Nat.strong_induction_on generalizing passed rest found ts with
  | _ n ihn =>
      induction ts with
      | nil => simpa using h
      | cons t ts ih =>
          rw [List.forall_mem_cons] at hts
          have hnew : t.site ∉ passed := fun hmem => hpassed t hmem hts.1
          rw [List.map_cons, List.cons_append, List.flatMap_cons]
          cases hnext : t.successors program text with
          | none =>
              rw [hts.1.accepted_eq_self hnext]
              exact .accept hnew hnext
          | some next =>
              obtain ⟨k, hnot, hlast⟩ := hts.1.exists_last
              have hlt : k < n := by
                by_contra hle
                exact hnot (hts.1.mono (not_lt.mp hle))
              have haccepted : t.accepted program text n
                  = next.flatMap (Thread.accepted program text k) := by
                rw [hlast.accepted_eq hlt, Thread.accepted, hnext]
              have hpassed' : ∀ s : Thread, s.site ∈ t.site :: passed →
                  ¬ s.Ends program text k := by
                intro s hs hk
                rcases List.mem_cons.mp hs with hs | hs
                · obtain ⟨haddr, hplace⟩ := Prod.mk.inj hs
                  exact hnot ((Thread.ends_iff_of_same_point haddr hplace).mp hk)
                · exact hpassed s hs (hk.mono hlt.le)
              rw [haccepted, List.head?_append, Option.or_assoc]
              exact .goOn hnew hnext
                (ihn k hlt (fun s hs => hlast.of_successors hnext hs) hpassed' (ih hts.2))

/-- What is found at a place is the first accepted thread from there. -/
lemma Runs.findsAt (h : Runs program text ⟨0, place, []⟩ L) :
    FindsAt program text place (L.head?.map (Thread.toMatch place)) := by
  obtain ⟨n, hends, rfl⟩ := h
  have hstart : ∀ t ∈ [(⟨0, place, []⟩ : Thread)], t.Ends program text n := fun t ht => by
    rwa [List.mem_singleton.mp ht]
  have hpassed : ∀ t : Thread, t.site ∈ (Trail.start place).passed → ¬ t.Ends program text n :=
    fun t ht => absurd ht List.not_mem_nil
  have hfound := backtracks_of_ends hstart hpassed .nothing
  rw [List.flatMap_singleton, Option.or_none] at hfound
  exact ⟨_, hfound, rfl⟩

end

/-! ## Expressions -/

namespace Expr

variable (e : Expr) (text : Array Char)

/-- The match that an expression prefers at a place. -/
def matchAt (place : ℕ) : Option Match :=
  (e.ways text ⟨place, []⟩).head?.map fun s => ⟨place, s.place, s.marks⟩

/-- The leftmost match from a place on. -/
def search (start : ℕ) : Option Match :=
  (List.range' start (text.size + 1 - start)).findSome? (e.matchAt text)

variable {e text}

/-- The ways of a plain expression are those of its program. -/
theorem runs_program (he : e.IsPlain) (s : Spot) :
    Runs e.program text (s.thread 0) ((e.ways text s).map (·.thread (e.code 0).length)) := by
  have hcode : CodeAt e.program 0 (e.code 0) := by
    intro k i hi
    obtain ⟨hlt, -⟩ := List.getElem?_eq_some_iff.mp hi
    rw [program, List.getElem?_toArray, Nat.zero_add, List.getElem?_append_left hlt, hi]
  have haccept : e.program[(e.code 0).length]? = some .accept := by
    simp [program]
  have hlead : Leads e.program text 0 s _ (e.ways text s) := Leads.code he hcode s
  rw [Nat.zero_add] at hlead
  rw [List.map_eq_flatMap]
  exact hlead _ fun s' _ => Runs.of_accept haccept

/-- What is found at a place is the match that a plain expression prefers there. -/
lemma findsAt_program (he : e.IsPlain) (place : ℕ) :
    FindsAt e.program text place (e.matchAt text place) := by
  have hruns : Runs e.program text ⟨0, place, []⟩ _ := runs_program he ⟨place, []⟩
  have hfound := hruns.findsAt
  rwa [List.head?_map, Option.map_map] at hfound

variable {start : ℕ}

lemma start_of_matchAt {place : ℕ} {m : Match} (h : e.matchAt text place = some m) :
    m.start = place := by
  obtain ⟨s, -, rfl⟩ := Option.map_eq_some_iff.mp h
  rfl

/-- Nothing is found if there is no match at any place. -/
theorem search_eq_none_iff :
    e.search text start = none ↔ ∀ p, start ≤ p → p ≤ text.size → e.matchAt text p = none := by
  rw [search, List.findSome?_eq_none_iff]
  constructor
  · intro h p hstart hp
    exact h p (List.mem_range'_1.mpr ⟨hstart, by omega⟩)
  · intro h p hp
    have := List.mem_range'_1.mp hp
    exact h p this.1 (by omega)

/-- What is found is the match at the first place that has one. -/
theorem search_eq_some_iff {m : Match} :
    e.search text start = some m ↔ ∃ p, start ≤ p ∧ p ≤ text.size ∧ e.matchAt text p = some m ∧
      ∀ q, start ≤ q → q < p → e.matchAt text q = none := by
  rw [search, findSome?_range'_eq_some_iff]
  constructor
  · rintro ⟨p, hle, hlt, h⟩
    exact ⟨p, hle, by omega, h⟩
  · rintro ⟨p, hle, hlt, h⟩
    exact ⟨p, hle, by omega, h⟩

end Expr

/-- **The program of a plain expression finds the leftmost match**, and of the matches from there
the one that the expression prefers. -/
theorem searchFrom_program {e : Expr} (he : e.IsPlain) (text : Array Char) (start : ℕ) :
    searchFrom e.program text start = e.search text start := by
  refine (findsFrom_searchFrom (isSelfContained_program e) text start).unique ?_
  cases hsearch : e.search text start with
  | none =>
      intro p hle hp
      rw [← Expr.search_eq_none_iff.mp hsearch p hle hp]
      exact Expr.findsAt_program he p
  | some m =>
      obtain ⟨p, hle, hp, hm, hbefore⟩ := Expr.search_eq_some_iff.mp hsearch
      obtain rfl := Expr.start_of_matchAt hm
      refine ⟨hle, hp, hm ▸ Expr.findsAt_program he _, fun q hq hlt => ?_⟩
      rw [← hbefore q hq hlt]
      exact Expr.findsAt_program he q

/-! ## The empty expression -/

section

variable {text : Array Char} {place : ℕ} {last : Option ℕ}

/-- Nothing is matched at every place, but no second time where a match has ended. -/
lemma successive_empty (hplace : place ≤ text.size + 1) (hlast : last ≠ some place) :
    Successive Expr.empty.program text place last
      ((List.range' place (text.size + 1 - place)).map fun p => ⟨p, p, []⟩) := by
  induction hn : text.size + 1 - place generalizing place last with
  | zero =>
      obtain rfl : place = text.size + 1 := by omega
      exact .done
  | succ n ih =>
      have hle : place ≤ text.size := by omega
      have hat : FindsAt Expr.empty.program text place (some ⟨place, place, []⟩) :=
        Expr.findsAt_program (by decide) place
      have hpassed : ∀ m ∈ some (⟨place, place, []⟩ : Match),
          m.stop = place ∧ some place = some place := by
        rintro _ ⟨⟩
        exact ⟨rfl, rfl⟩
      have hbehind : some place ≠ some (place + 1) := by simp
      have hrest := ih (by omega) hbehind (by omega)
      rw [List.range'_succ, List.map_cons]
      exact .found hle hat (fun h => hlast h.2) (.skip hle hat hpassed hrest)

/-- **The empty expression** is found once at every place. -/
theorem allMatches_empty (text : Array Char) :
    allMatches Expr.empty.program text
      = (List.range (text.size + 1)).map fun p => ⟨p, p, []⟩ := by
  have hfirst : (none : Option ℕ) ≠ some 0 := by simp
  have hall : Successive Expr.empty.program text 0 none _ := successive_empty (by omega) hfirst
  rw [Nat.sub_zero, ← List.range_eq_range'] at hall
  exact (successive_allMatches Expr.empty text).unique hall

end

end Scratchpad.Pattern
