import Scratchpad.Proofs.Pattern.Backtrack

/-!
# The matches that follow one another

All matches of a program are met on one way through the text.  At each place backtracking finds a
match or nothing.  A match is taken, and the way goes on behind it.  It goes on with the next
character where nothing is found, or only an empty match directly behind the last one.

* `isSelfContained_program` — the program of an expression is never left.
* `FindsAt` — what is found at a place; `FindsAt.unique`, `exists_findsAt`.
* `FindsFrom`, `findsFrom_searchFrom` — a search finds the first match from a place on.
* `Successive` — the matches that follow one another; `Successive.unique`.
* **`successive_allMatches`** — what is reported are these matches, for every expression.
* `isWay_of_mem_allMatches` — each of them is the way of a thread that is accepted.
* `InOrder`, `Successive.inOrder` — none of them reaches into the next.
-/

namespace Scratchpad.Pattern

/-- The program of an expression is never left. -/
theorem isSelfContained_program (e : Expr) : IsSelfContained e.program where
  nonempty := by simp [Expr.program]
  targets address i hi a ha := by
    have hsize : e.program.size = (e.code 0).length + 1 := by simp [Expr.program]
    rw [Expr.program, List.getElem?_toArray] at hi
    rcases lt_or_ge address (e.code 0).length with hlt | hge
    · rw [List.getElem?_append_left hlt] at hi
      obtain ⟨-, htargets⟩ := staysIn_code e 0 address i hi
      rw [Nat.zero_add] at htargets
      have := (htargets a ha).2
      omega
    · -- behind the code there is nothing but the end
      rw [List.getElem?_append_right hge] at hi
      obtain rfl : i = .accept := List.mem_singleton.mp (List.mem_of_getElem? hi)
      cases ha

variable {program : Array Instr} {text : Array Char} {origin place start fuel : ℕ}
  {last : Option ℕ} {m : Match} {ms ns : List Match} {found found' : Option Match}

/-! ## At one place -/

/-- What backtracking finds at a place. -/
def FindsAt (program : Array Instr) (text : Array Char) (place : ℕ) (found : Option Match) : Prop :=
  ∃ t, Backtracks program text [Trail.start place] t ∧ found = t.map (Thread.toMatch place)

lemma FindsAt.unique (h : FindsAt program text place found)
    (h' : FindsAt program text place found') : found = found' := by
  obtain ⟨t, ht, rfl⟩ := h
  obtain ⟨t', ht', rfl⟩ := h'
  rw [ht.unique ht']

lemma FindsAt.start_eq (h : FindsAt program text place (some m)) : m.start = place := by
  obtain ⟨t, -, hm⟩ := h
  obtain ⟨t, -, rfl⟩ := Option.map_eq_some_iff.mp hm.symm
  rfl

/-- A thread goes ahead, and not out of the text. -/
lemma Thread.Reaches.place_le {t s : Thread} (h : t.Reaches program text s) :
    t.place ≤ s.place ∧ (t.place ≤ text.size → s.place ≤ text.size) := by
  induction h with
  | refl => exact ⟨le_rfl, id⟩
  | tail _ hstep ih =>
      obtain ⟨next, hnext, hs⟩ := hstep
      obtain ⟨hle, hsize⟩ := place_of_successors hnext hs
      exact ⟨ih.1.trans hle, fun ht => hsize (ih.2 ht)⟩

/-- What is found is the way of a thread that is accepted. -/
lemma FindsAt.isWay (h : FindsAt program text place (some m)) : m.IsWay program text := by
  obtain ⟨t, ht, hm⟩ := h
  obtain ⟨t, rfl, rfl⟩ := Option.map_eq_some_iff.mp hm.symm
  obtain ⟨r, hr, hreach, haccept⟩ := ht.exists_reaches t rfl
  obtain rfl := List.mem_singleton.mp hr
  exact ⟨t, hreach, haccept, rfl⟩

/-- A match ends where it begins or behind, and in the text. -/
lemma FindsAt.stop_le (h : FindsAt program text place (some m)) (hplace : place ≤ text.size) :
    place ≤ m.stop ∧ m.stop ≤ text.size := by
  obtain ⟨t, hreach, -, hm⟩ := h.isWay
  have hstop : m.stop = t.place := congrArg Match.stop hm
  obtain ⟨hle, hsize⟩ := hreach.place_le
  rw [h.start_eq] at hle hsize
  rw [hstop]
  exact ⟨hle, hsize hplace⟩

/-! ## From a place on -/

/-- Before anything has been visited there is nothing to be said of it. -/
lemma Tracked.initial :
    Tracked program text origin (.none (pointCount program text origin)) [] where
  inRange _ hr := by cases hr
  passed _ hr := by cases hr
  nested := .nil
  goesOn _ ht := by
    obtain ⟨t, -, -, hv⟩ := ht
    rw [Visited.contains_none] at hv
    cases hv
  room := by simp [Visited.none]

/-- After a search in vain the next place can be tried. -/
lemma Tracked.startAt {v : Visited} (hprogram : IsSelfContained program)
    (h : Tracked program text origin v []) (horigin : origin ≤ place) (hplace : place ≤ text.size) :
    Tracked program text origin v [.start place] where
  inRange r hr := by
    rw [List.mem_singleton.mp hr]
    exact ⟨hprogram.nonempty, horigin, hplace⟩
  passed r hr site hsite := by
    rw [List.mem_singleton.mp hr] at hsite
    cases hsite
  nested := List.pairwise_singleton _ _
  goesOn t ht := by
    obtain ⟨next, hnext, hs⟩ := h.goesOn t ht
    refine ⟨next, hnext, fun s hsnext => .inl ((hs s hsnext).resolve_right ?_)⟩
    rintro ⟨r, hr, -⟩
    cases hr
  room := h.room

/-- What is found from a place on: the match at the first place that has one. -/
def FindsFrom (program : Array Instr) (text : Array Char) (start : ℕ) : Option Match → Prop
  | none => ∀ p, start ≤ p → p ≤ text.size → FindsAt program text p none
  | some m => start ≤ m.start ∧ m.start ≤ text.size ∧ FindsAt program text m.start (some m) ∧
      ∀ p, start ≤ p → p < m.start → FindsAt program text p none

/-- There is only one first match. -/
lemma FindsFrom.unique (h : FindsFrom program text start found)
    (h' : FindsFrom program text start found') : found = found' := by
  cases found with
  | none =>
      cases found' with
      | none => rfl
      | some m' => exact (h m'.start h'.1 h'.2.1).unique h'.2.2.1
  | some m =>
      cases found' with
      | none => exact h.2.2.1.unique (h' m.start h.1 h.2.1)
      | some m' =>
          obtain ⟨hle, -, hm, hbefore⟩ := h
          obtain ⟨hle', -, hm', hbefore'⟩ := h'
          rcases lt_trichotomy m.start m'.start with hlt | heq | hlt
          · cases hm.unique (hbefore' m.start hle hlt)
          · exact hm.unique (heq ▸ hm')
          · cases (hbefore m'.start hle' hlt).unique hm'

/-- Where nothing is found, the next place decides. -/
lemma FindsFrom.later (hnone : FindsAt program text start none)
    (h : FindsFrom program text (start + 1) found) : FindsFrom program text start found := by
  have hfirst : ∀ {n : ℕ}, (∀ p, start + 1 ≤ p → p < n → FindsAt program text p none) →
      ∀ p, start ≤ p → p < n → FindsAt program text p none := by
    intro n hrest p hle hlt
    rcases hle.eq_or_lt with rfl | hle
    · exact hnone
    · exact hrest p hle hlt
  cases found with
  | none =>
      intro p hle hp
      exact hfirst (n := text.size + 1) (fun q hq hlt => h q hq (by omega)) p hle (by omega)
  | some m =>
      obtain ⟨hle, hsize, hm, hrest⟩ := h
      exact ⟨by omega, hsize, hm, hfirst hrest⟩

/-- One place is tried after the other. -/
lemma findsFrom_tryPlaces (hprogram : IsSelfContained program) {rounds left : ℕ} {v : Visited}
    (hrounds : pointCount program text origin < rounds) (hleft : left = text.size + 1 - start)
    (hstart : origin ≤ start) (h : Tracked program text origin v []) :
    FindsFrom program text start (tryPlaces program text origin rounds left start v) := by
  induction left generalizing start v with
  | zero =>
      intro p hle hp
      omega
  | succ left ih =>
      obtain ⟨hfound, hvain⟩ := backtracks_explore hprogram
        (h.startAt hprogram hstart (by omega)) (lt_of_le_of_lt (unvisited_le v) hrounds)
      have hthread : [Trail.start start].map Trail.thread = [⟨0, start, []⟩] := rfl
      rw [hthread] at hfound hvain
      rw [tryPlaces]
      cases hexplore : explore program text origin rounds v [⟨0, start, []⟩] with
      | mk thread v' =>
          rw [hexplore] at hfound hvain
          cases thread with
          | none => exact .later ⟨none, hfound, rfl⟩ (ih (by omega) (by omega) (hvain rfl))
          | some t =>
              have hm : FindsAt program text start (some (t.toMatch start)) := ⟨some t, hfound, rfl⟩
              exact ⟨le_rfl, by dsimp only; omega, hm, fun p hle hlt => absurd hlt (not_lt.mpr hle)⟩

/-- **A search finds the first match** from a place on, and there the one that backtracking
finds. -/
theorem findsFrom_searchFrom (hprogram : IsSelfContained program) (text : Array Char) (start : ℕ) :
    FindsFrom program text start (searchFrom program text start) :=
  findsFrom_tryPlaces hprogram (Nat.lt_succ_self _) rfl le_rfl Tracked.initial

/-- Backtracking comes to an end at every place. -/
lemma exists_findsAt (hprogram : IsSelfContained program) (hplace : place ≤ text.size) :
    ∃ found, FindsAt program text place found := by
  have h := findsFrom_searchFrom hprogram text place
  cases hsearch : searchFrom program text place with
  | none =>
      rw [hsearch] at h
      exact ⟨none, h place le_rfl hplace⟩
  | some m =>
      rw [hsearch] at h
      obtain ⟨hle, -, hm, hbefore⟩ := h
      rcases hle.eq_or_lt with rfl | hlt
      · exact ⟨some m, hm⟩
      · exact ⟨none, hbefore place le_rfl hlt⟩

/-! ## One match after the other -/

/-- **The matches that follow one another** from a place on, where the last match before it ended at
`last`. -/
inductive Successive (program : Array Instr) (text : Array Char) :
    (place : ℕ) → (last : Option ℕ) → List Match → Prop
  | done {last : Option ℕ} : Successive program text (text.size + 1) last []
  | skip {place : ℕ} {last : Option ℕ} {found : Option Match} {ms : List Match}
      (hplace : place ≤ text.size) (hfound : FindsAt program text place found)
      (hempty : ∀ m ∈ found, m.stop = place ∧ last = some place)
      (hrest : Successive program text (place + 1) last ms) : Successive program text place last ms
  | found {place : ℕ} {last : Option ℕ} {m : Match} {ms : List Match} (hplace : place ≤ text.size)
      (hm : FindsAt program text place (some m)) (hnew : ¬ (m.stop = place ∧ last = some place))
      (hrest : Successive program text m.stop (some m.stop) ms) :
      Successive program text place last (m :: ms)

namespace Successive

/-- There is only one way through the text. -/
theorem unique (h : Successive program text place last ms)
    (h' : Successive program text place last ns) : ms = ns := by
  induction h generalizing ns with
  | done =>
      cases h' with
      | done => rfl
      | skip hplace _ _ _ => omega
      | found hplace _ _ _ => omega
  | skip hplace hfound hempty _ ih =>
      cases h' with
      | done => omega
      | skip _ _ _ hrest' => exact ih hrest'
      | found _ hm' hnew' _ =>
          obtain rfl := hfound.unique hm'
          exact absurd (hempty _ rfl) hnew'
  | found hplace hm hnew _ ih =>
      cases h' with
      | done => omega
      | skip _ hfound' hempty' _ =>
          obtain rfl := hfound'.unique hm
          exact absurd (hempty' _ rfl) hnew
      | found _ hm' _ hrest' =>
          obtain rfl := Option.some.inj (hm.unique hm')
          rw [ih hrest']

/-- Places where nothing is found are passed over. -/
lemma skip_to {next : ℕ} (hle : place ≤ next) (hnext : next ≤ text.size + 1)
    (hnone : ∀ p, place ≤ p → p < next → FindsAt program text p none)
    (h : Successive program text next last ms) : Successive program text place last ms := by
  induction hle using Nat.decreasingInduction with
  | self => exact h
  | of_succ p hlt ih =>
      exact .skip (by omega) (hnone p le_rfl hlt) (by simp) (ih fun q hq => hnone q (by omega))

/-- If nothing is found any more, there are no more matches. -/
lemma of_findsFrom_none (hplace : place ≤ text.size + 1) (h : FindsFrom program text place none) :
    Successive program text place last [] :=
  done.skip_to hplace le_rfl fun p hle hlt => h p hle (Nat.le_of_lt_succ hlt)

/-- The next match that is found is taken, if it is not the one that is to be passed over. -/
lemma of_findsFrom_some (h : FindsFrom program text place (some m))
    (hnew : ¬ (m.stop = m.start ∧ last = some m.start))
    (hrest : Successive program text m.stop (some m.stop) ms) :
    Successive program text place last (m :: ms) := by
  obtain ⟨hle, hsize, hm, hbefore⟩ := h
  exact (found hsize hm hnew hrest).skip_to hle (by omega) hbefore

end Successive

/-! ## The matches that are reported -/

/-- The next match behind a place, where the last match before it ended at `last`. -/
def nextMatch (program : Array Instr) (text : Array Char) (place : ℕ) (last : Option ℕ) :
    Option Match :=
  match searchFrom program text place with
  | some m =>
    if m.isEmpty && last == some m.stop then searchFrom program text (place + 1) else some m
  | none => none

lemma matchesFrom_succ (fuel place : ℕ) (last : Option ℕ) :
    matchesFrom program text (fuel + 1) place last =
      match nextMatch program text place last with
      | some m => m :: matchesFrom program text fuel m.stop (some m.stop)
      | none => [] := rfl

/-- The next match is the one that is found from the place on, or, behind an empty match that is
passed over, the one that is found from the next place on. -/
lemma nextMatch_cases (hprogram : IsSelfContained program) (text : Array Char)
    (hlast : ∀ p ∈ last, p = place) :
    (FindsFrom program text place (nextMatch program text place last) ∧
      ∀ m ∈ nextMatch program text place last, ¬ (m.stop = m.start ∧ last = some m.start)) ∨
    (last = some place ∧ (∃ m, FindsAt program text place (some m) ∧ m.stop = place) ∧
      FindsFrom program text (place + 1) (nextMatch program text place last)) := by
  have hfound := findsFrom_searchFrom hprogram text place
  rw [nextMatch]
  cases hsearch : searchFrom program text place with
  | none =>
      rw [hsearch] at hfound
      exact .inl ⟨hfound, by simp⟩
  | some m =>
      rw [hsearch] at hfound
      by_cases hagain : m.isEmpty && last == some m.stop
      · simp only [hagain, if_true]
        simp only [Match.isEmpty, Bool.and_eq_true, beq_iff_eq] at hagain
        obtain ⟨hempty, rfl⟩ := hagain
        obtain rfl := hlast m.stop rfl
        obtain ⟨-, -, hm, -⟩ := hfound
        rw [hempty] at hm
        exact .inr ⟨rfl, ⟨m, hm, rfl⟩, findsFrom_searchFrom hprogram text (m.stop + 1)⟩
      · simp only [hagain, Bool.false_eq_true, if_false]
        refine .inl ⟨hfound, ?_⟩
        rintro _ ⟨⟩ ⟨heq, rfl⟩
        simp [Match.isEmpty, heq] at hagain

lemma successive_of_nextMatch_eq_none (hprogram : IsSelfContained program)
    (hplace : place ≤ text.size) (hlast : ∀ p ∈ last, p = place)
    (h : nextMatch program text place last = none) : Successive program text place last [] := by
  rcases nextMatch_cases hprogram text hlast with
    ⟨hfound, -⟩ | ⟨rfl, ⟨m, hm, hstop⟩, hfound⟩
  · rw [h] at hfound
    exact .of_findsFrom_none (by omega) hfound
  · rw [h] at hfound
    refine .skip hplace hm ?_ (.of_findsFrom_none (by omega) hfound)
    rintro _ ⟨⟩
    exact ⟨hstop, rfl⟩

/-- The next match ends ahead of the place where another match has ended, and with it the matches
that follow one another go on. -/
lemma successive_of_nextMatch_eq_some (hprogram : IsSelfContained program)
    (hplace : place ≤ text.size) (hlast : ∀ p ∈ last, p = place)
    (h : nextMatch program text place last = some m) :
    place ≤ m.stop ∧ m.stop ≤ text.size ∧ (last = some place → place < m.stop) ∧
      (Successive program text m.stop (some m.stop) ms →
        Successive program text place last (m :: ms)) := by
  rcases nextMatch_cases hprogram text hlast with
    ⟨hfound, hnew⟩ | ⟨rfl, ⟨e, he, hempty⟩, hfound⟩
  · rw [h] at hfound hnew
    have hnew := hnew m rfl
    obtain ⟨hle, hsize, hm, -⟩ := id hfound
    obtain ⟨hstop, hstop'⟩ := hm.stop_le hsize
    refine ⟨hle.trans hstop, hstop', fun hsome => ?_, .of_findsFrom_some hfound hnew⟩
    by_contra hnot
    exact hnew ⟨by omega, by rw [hsome]; congr 1; omega⟩
  · rw [h] at hfound
    obtain ⟨hle, hsize, hm, -⟩ := id hfound
    obtain ⟨hstop, hstop'⟩ := hm.stop_le hsize
    refine ⟨by omega, hstop', fun _ => by omega, fun hrest => ?_⟩
    refine .skip hplace he ?_ (.of_findsFrom_some hfound (fun hno => ?_) hrest)
    · rintro _ ⟨⟩
      exact ⟨hempty, rfl⟩
    · have := Option.some.inj hno.2
      omega

lemma successive_matchesFrom (hprogram : IsSelfContained program) (hplace : place ≤ text.size)
    (hlast : ∀ p ∈ last, p = place) (hfuel : text.size - place ≤ fuel)
    (hfirst : last = none → text.size - place < fuel) :
    Successive program text place last (matchesFrom program text fuel place last) := by
  induction fuel generalizing place last with
  | zero =>
      -- the last match has ended at the end of the text, where only an empty one can follow
      obtain ⟨p, rfl⟩ : ∃ p, last = some p := Option.ne_none_iff_exists'.mp fun hnone => by
        have := hfirst hnone
        omega
      obtain rfl := hlast p rfl
      obtain ⟨found, hfound⟩ := exists_findsAt hprogram hplace
      have hsize : text.size = p := by omega
      refine .skip hplace hfound (fun m hm => ⟨?_, rfl⟩) (hsize ▸ .done)
      obtain ⟨hle, hle'⟩ := FindsAt.stop_le (hm ▸ hfound) hplace
      omega
  | succ fuel ih =>
      rw [matchesFrom_succ]
      cases hnext : nextMatch program text place last with
      | none => exact successive_of_nextMatch_eq_none hprogram hplace hlast hnext
      | some m =>
          obtain ⟨hle, hsize, hahead, hrest⟩ :=
            successive_of_nextMatch_eq_some hprogram hplace hlast hnext
          refine hrest (ih hsize (by simp) ?_ (by simp))
          cases last with
          | none =>
              have := hfirst rfl
              omega
          | some p =>
              have := hahead (congrArg some (hlast p rfl))
              omega

/-- **What is reported are the matches that follow one another**, whatever the expression. -/
theorem successive_allMatches (e : Expr) (text : Array Char) :
    Successive e.program text 0 none (allMatches e.program text) :=
  successive_matchesFrom (isSelfContained_program e) (Nat.zero_le _) (by simp) (by omega)
    fun _ => by omega

/-- Each of them is the way of a thread that is accepted. -/
lemma Successive.isWay (h : Successive program text place last ms) (hm : m ∈ ms) :
    m.IsWay program text := by
  induction h with
  | done => cases hm
  | skip _ _ _ _ ih => exact ih hm
  | found _ hfound _ _ ih =>
      rcases List.mem_cons.mp hm with rfl | hm
      · exact hfound.isWay
      · exact ih hm

/-- **Every match that is reported is the way of a thread** that is accepted. -/
theorem isWay_of_mem_allMatches {e : Expr} (hm : m ∈ allMatches e.program text) :
    m.IsWay e.program text :=
  (successive_allMatches e text).isWay hm

/-! ## The order of the matches -/

/-- The matches lie in the text behind a place, each behind the one before it. -/
def InOrder (size : ℕ) : (place : ℕ) → List Match → Prop
  | _, [] => True
  | place, m :: ms => place ≤ m.start ∧ m.start ≤ m.stop ∧ m.stop ≤ size ∧ InOrder size m.stop ms

lemma InOrder.mono {size next : ℕ} (h : InOrder size next ms) (hle : place ≤ next) :
    InOrder size place ms := by
  cases ms with
  | nil => trivial
  | cons m ms => exact ⟨hle.trans h.1, h.2⟩

/-- Every match of them lies behind the place. -/
lemma InOrder.le_of_mem {size : ℕ} (h : InOrder size place ms) (hm : m ∈ ms) :
    place ≤ m.start ∧ m.start ≤ m.stop := by
  induction ms generalizing place with
  | nil => cases hm
  | cons m' ms ih =>
      obtain ⟨hstart, hstop, -, hrest⟩ := h
      rcases List.mem_cons.mp hm with rfl | hm
      · exact ⟨hstart, hstop⟩
      · exact ih (hrest.mono (hstart.trans hstop)) hm

/-- None of the matches that follow one another reaches into the next. -/
theorem Successive.inOrder (h : Successive program text place last ms) :
    InOrder text.size place ms := by
  induction h with
  | done => trivial
  | skip _ _ _ _ ih => exact ih.mono (Nat.le_succ _)
  | found hplace hm _ _ ih =>
      obtain ⟨hle, hsize⟩ := hm.stop_le hplace
      exact ⟨hm.start_eq.ge, hm.start_eq.trans_le hle, hsize, ih⟩

end Scratchpad.Pattern
