import Scratchpad.Proofs.Pattern.Reach
import Scratchpad.Proofs.Pattern.Visited

/-!
# The search is backtracking

Backtracking goes down the ways of a program one after the other, each in the order of the program's
choices.  A way that comes back to a site where it has been is given up, so that none goes on for
ever.  `explore` remembers more: it gives up a thread at any site where an earlier one has been.  It
finds the same, because nothing can be found from there that has not been found already, and that
holds of every program, also of one whose loops read nothing.

* `Thread.site`, `Trail` — where a thread is, and where it has been.
* `Backtracks` — what backtracking finds; `Backtracks.unique`, `Backtracks.exists_reaches`.
* `Seen`, `Tracked` — the sites visited, and what holds of them and of the trails still to be tried.
* `Tracked.backtracks_of_seen` — from a site that has been visited nothing more can be found.
* **`backtracks_explore`** — the search finds what backtracking finds.
-/

namespace Scratchpad.Pattern

/-! ## Backtracking -/

/-- Where a thread is: its address and its place. -/
def Thread.site (t : Thread) : ℕ × ℕ := (t.address, t.place)

/-- A thread and the sites that it has passed, the last one first. -/
structure Trail where
  passed : List (ℕ × ℕ)
  thread : Thread

/-- The ways on from a trail. -/
def Trail.ways (r : Trail) (next : List Thread) : List Trail :=
  next.map fun s => ⟨r.thread.site :: r.passed, s⟩

/-- A trail that begins at a place. -/
def Trail.start (place : ℕ) : Trail := ⟨[], ⟨0, place, []⟩⟩

/-- **Backtracking** through trails, the first of which is tried first, finds an accepted thread or
nothing. -/
inductive Backtracks (program : Array Instr) (text : Array Char) : List Trail → Option Thread → Prop
  | nothing : Backtracks program text [] none
  | again {r : Trail} {rest : List Trail} {found : Option Thread} (h : r.thread.site ∈ r.passed)
      (hrest : Backtracks program text rest found) : Backtracks program text (r :: rest) found
  | accept {r : Trail} {rest : List Trail} (hnew : r.thread.site ∉ r.passed)
      (h : r.thread.successors program text = none) :
      Backtracks program text (r :: rest) (some r.thread)
  | goOn {r : Trail} {rest : List Trail} {next : List Thread} {found : Option Thread}
      (hnew : r.thread.site ∉ r.passed) (h : r.thread.successors program text = some next)
      (hrest : Backtracks program text (r.ways next ++ rest) found) :
      Backtracks program text (r :: rest) found

section

variable {program : Array Instr} {text : Array Char} {trails : List Trail}
  {found found' : Option Thread}

/-- Backtracking finds one thing only. -/
theorem Backtracks.unique (h : Backtracks program text trails found)
    (h' : Backtracks program text trails found') : found = found' := by
  induction h with
  | nothing =>
      cases h'
      rfl
  | again hsite _ ih =>
      cases h' with
      | again _ hrest' => exact ih hrest'
      | accept hnew' _ => exact absurd hsite hnew'
      | goOn hnew' _ _ => exact absurd hsite hnew'
  | accept hnew haccept =>
      cases h' with
      | again hsite' _ => exact absurd hsite' hnew
      | accept _ _ => rfl
      | goOn _ hnext' _ =>
          rw [haccept] at hnext'
          cases hnext'
  | goOn hnew hnext _ ih =>
      cases h' with
      | again hsite' _ => exact absurd hsite' hnew
      | accept _ haccept' =>
          rw [hnext] at haccept'
          cases haccept'
      | goOn _ hnext' hrest' =>
          rw [hnext, Option.some.injEq] at hnext'
          subst hnext'
          exact ih hrest'

/-- What is found is reached from one of the trails, and accepted. -/
lemma Backtracks.exists_reaches (h : Backtracks program text trails found) :
    ∀ t ∈ found, ∃ r ∈ trails, r.thread.Reaches program text t ∧
      t.successors program text = none := by
  induction h with
  | nothing => simp
  | again _ _ ih =>
      intro t ht
      obtain ⟨r, hr, hreach⟩ := ih t ht
      exact ⟨r, List.mem_cons_of_mem _ hr, hreach⟩
  | accept _ haccept =>
      rintro t ⟨⟩
      exact ⟨_, List.mem_cons_self, .refl, haccept⟩
  | @goOn first rest next found _ hnext _ ih =>
      intro t ht
      obtain ⟨r, hr, hreach, haccept⟩ := ih t ht
      rcases List.mem_append.mp hr with hr | hr
      · obtain ⟨s, hs, rfl⟩ := List.mem_map.mp hr
        exact ⟨first, List.mem_cons_self, .head ⟨next, hnext, hs⟩ hreach, haccept⟩
      · exact ⟨r, List.mem_cons_of_mem _ hr, hreach, haccept⟩

end

/-! ## Sites -/

/-- The program can be entered and is never left: from an instruction a thread goes on to another
one. -/
structure IsSelfContained (program : Array Instr) : Prop where
  nonempty : 0 < program.size
  targets : ∀ (address : ℕ) (i : Instr), program[address]? = some i →
    ∀ a ∈ i.targets address, a < program.size

section

variable {program : Array Instr} {text : Array Char} {origin : ℕ} {v : Visited} {t t' : Thread}

/-- Where a thread can go on to does not depend on the marks that it has passed. -/
lemma Thread.successors_of_site_eq (h : t.site = t'.site) {next : List Thread}
    (hnext : t.successors program text = some next) :
    ∃ next', t'.successors program text = some next' ∧
      next'.map Thread.site = next.map Thread.site := by
  obtain ⟨haddr, hplace⟩ := Prod.mk.inj h
  rw [t.eq_withMarks, successors_withMarks] at hnext
  obtain ⟨base, hbase, rfl⟩ := Option.map_eq_some_iff.mp hnext
  refine ⟨base.map (withMarks t'.marks), ?_, ?_⟩
  · rw [t'.eq_withMarks, successors_withMarks, ← haddr, ← hplace, hbase]
    rfl
  · rw [List.map_map, List.map_map]
    rfl

variable (program text origin) in
/-- The site has been visited. -/
def Seen (v : Visited) (site : ℕ × ℕ) : Prop :=
  ∃ t : Thread, t.site = site ∧ t.InRange program text origin ∧
    v.contains (t.point program.size origin)

lemma seen_iff (h : t.InRange program text origin) :
    Seen program text origin v t.site ↔ v.contains (t.point program.size origin) := by
  constructor
  · rintro ⟨t', hsite, -, hv⟩
    obtain ⟨haddr, hplace⟩ := Prod.mk.inj hsite
    have hpoint : t'.point program.size origin = t.point program.size origin := by
      rw [Thread.point, Thread.point, haddr, hplace]
    rwa [← hpoint]
  · exact fun hv => ⟨t, rfl, h, hv⟩

/-- A site that is visited is seen, and nothing else changes. -/
lemma seen_insert_iff (h : t.InRange program text origin)
    (hroom : pointCount program text origin / Visited.wordSize < v.words.size) {site : ℕ × ℕ} :
    Seen program text origin (v.insert (t.point program.size origin)) site ↔
      Seen program text origin v site ∨ site = t.site := by
  have hpoint : t.point program.size origin / Visited.wordSize < v.words.size :=
    lt_of_le_of_lt (Nat.div_le_div_right h.point_lt.le) hroom
  constructor
  · rintro ⟨t', rfl, ht', hv⟩
    rw [v.contains_insert hpoint, Bool.or_eq_true, beq_iff_eq] at hv
    rcases hv with hv | hv
    · exact .inl ⟨t', rfl, ht', hv⟩
    · obtain ⟨haddr, hplace⟩ := h.eq_of_point_eq ht' hv
      exact .inr (Prod.ext haddr.symm hplace.symm)
  · rintro (⟨t', rfl, ht', hv⟩ | rfl)
    · refine ⟨t', rfl, ht', ?_⟩
      rw [v.contains_insert hpoint, hv, Bool.true_or]
    · refine ⟨t, rfl, h, ?_⟩
      rw [v.contains_insert hpoint, beq_self_eq_true, Bool.or_true]

/-- The ways on from a thread in range are in range. -/
lemma Thread.InRange.of_successors (hprogram : IsSelfContained program)
    (h : t.InRange program text origin) {next : List Thread}
    (hnext : t.successors program text = some next) {s : Thread} (hs : s ∈ next) :
    s.InRange program text origin := by
  obtain ⟨hle, hsize⟩ := Thread.place_of_successors hnext hs
  have hstep : t.Step program text s := ⟨next, hnext, hs⟩
  exact
    { address := hprogram.targets _ _ (Array.getElem?_eq_getElem h.address) _
        (hstep.mem_targets (Array.getElem?_eq_getElem h.address))
      origin := h.origin.trans hle
      place := hsize h.place }

end

/-! ## What holds of a search -/

/-- What holds of the sites visited and of the trails still to be tried, the next one first.  No
site visited accepts, and from each of them every way on has been visited, or is still to be tried
by a trail that has passed it. -/
structure Tracked (program : Array Instr) (text : Array Char) (origin : ℕ) (v : Visited)
    (trails : List Trail) : Prop where
  inRange : ∀ r ∈ trails, r.thread.InRange program text origin
  passed : ∀ r ∈ trails, ∀ site ∈ r.passed, Seen program text origin v site
  nested : trails.Pairwise fun r r' => r'.passed ⊆ r.passed
  goesOn : ∀ t : Thread, Seen program text origin v t.site →
    ∃ next, t.successors program text = some next ∧
      ∀ s ∈ next, Seen program text origin v s.site ∨
        ∃ r ∈ trails, r.thread.site = s.site ∧ t.site ∈ r.passed
  room : pointCount program text origin / Visited.wordSize < v.words.size

section

variable {program : Array Instr} {text : Array Char} {origin : ℕ} {v : Visited} {r : Trail}
  {rest trails : List Trail} {found : Option Thread}

/-- The sites that a search from `origin` on can come to. -/
def sites (program : Array Instr) (text : Array Char) : Finset (ℕ × ℕ) :=
  Finset.range program.size ×ˢ Finset.range (text.size + 1)

lemma Seen.mem_sites {site : ℕ × ℕ} (h : Seen program text origin v site) :
    site ∈ sites program text := by
  obtain ⟨t, rfl, ht, -⟩ := h
  exact Finset.mem_product.mpr ⟨Finset.mem_range.mpr ht.address,
    Finset.mem_range.mpr (Nat.lt_succ_of_le ht.place)⟩

/-- To pass one more site leaves fewer to be passed. -/
lemma card_sites_cons_lt {site : ℕ × ℕ} {passed : List (ℕ × ℕ)}
    (h : Seen program text origin v site) (hnew : site ∉ passed) :
    (sites program text \ (site :: passed).toFinset).card
      < (sites program text \ passed.toFinset).card := by
  refine Finset.card_lt_card ⟨fun x hx => ?_, fun hle => ?_⟩
  · simp only [Finset.mem_sdiff, List.mem_toFinset, List.mem_cons, not_or] at hx ⊢
    exact ⟨hx.1, hx.2.2⟩
  · have hmem := hle (Finset.mem_sdiff.mpr ⟨h.mem_sites, by simpa using hnew⟩)
    simp at hmem

/-- From sites that have all been visited backtracking finds nothing, and goes on behind them, if
every way on that has not been passed leads to such a site again. -/
lemma backtracks_of_forall_seen {passed : List (ℕ × ℕ)}
    (hclosed : ∀ t : Thread, Seen program text origin v t.site → t.site ∉ passed →
      ∃ next, t.successors program text = some next ∧
        ∀ s ∈ next, Seen program text origin v s.site)
    {n : ℕ} {passed' : List (ℕ × ℕ)} (hsub : passed ⊆ passed')
    (hn : (sites program text \ passed'.toFinset).card < n) {ts : List Thread}
    (hts : ∀ t ∈ ts, Seen program text origin v t.site) (h : Backtracks program text rest found) :
    Backtracks program text (ts.map (Trail.mk passed') ++ rest) found := by
  -- on the number of sites left to be passed, and then along the threads
  induction n generalizing passed' ts rest with
  | zero => omega
  | succ n ihn =>
      induction ts with
      | nil => exact h
      | cons t ts ih =>
          rw [List.forall_mem_cons] at hts
          by_cases hsite : t.site ∈ passed'
          · exact .again hsite (ih hts.2)
          · obtain ⟨next, hnext, hseen⟩ := hclosed t hts.1 fun hmem => hsite (hsub hmem)
            have hless := card_sites_cons_lt hts.1 hsite
            exact .goOn hsite hnext (ihn (List.subset_cons_of_subset _ hsub)
              (Nat.lt_of_lt_of_le hless (Nat.le_of_lt_succ hn)) hseen (ih hts.2))

namespace Tracked

/-- From a site that has been visited nothing more can be found. -/
lemma backtracks_of_seen (h : Tracked program text origin v (r :: rest))
    (hseen : Seen program text origin v r.thread.site)
    (hrest : Backtracks program text rest found) :
    Backtracks program text (r :: rest) found := by
  have hclosed : ∀ t : Thread, Seen program text origin v t.site → t.site ∉ r.passed →
      ∃ next, t.successors program text = some next ∧
        ∀ s ∈ next, Seen program text origin v s.site := by
    intro t ht hnew
    obtain ⟨next, hnext, hs⟩ := h.goesOn t ht
    refine ⟨next, hnext, fun s hsnext => (hs s hsnext).resolve_right ?_⟩
    -- a trail that had passed the thread's site would be this one, or come out of it
    rintro ⟨r', hr', -, hpassed⟩
    rcases List.mem_cons.mp hr' with rfl | hr'
    · exact hnew hpassed
    · exact hnew (List.rel_of_pairwise_cons h.nested hr' hpassed)
  exact backtracks_of_forall_seen hclosed (List.Subset.refl _) (Nat.lt_succ_self _)
    (fun t ht => by rwa [List.mem_singleton.mp ht]) hrest

/-- A trail to a site that has been visited can be given up. -/
lemma drop (h : Tracked program text origin v (r :: rest))
    (hseen : Seen program text origin v r.thread.site) : Tracked program text origin v rest where
  inRange x hx := h.inRange x (List.mem_cons_of_mem _ hx)
  passed x hx := h.passed x (List.mem_cons_of_mem _ hx)
  nested := h.nested.of_cons
  goesOn t ht := by
    obtain ⟨next, hnext, hs⟩ := h.goesOn t ht
    refine ⟨next, hnext, fun s hsnext => ?_⟩
    rcases hs s hsnext with hs | ⟨x, hx, hsite, hpassed⟩
    · exact .inl hs
    · rcases List.mem_cons.mp hx with rfl | hx
      · exact .inl (hsite ▸ hseen)
      · exact .inr ⟨x, hx, hsite, hpassed⟩
  room := h.room

/-- The ways on from a trail take its place once its site has been visited. -/
lemma expand (hprogram : IsSelfContained program) (h : Tracked program text origin v (r :: rest))
    {next : List Thread} (hnext : r.thread.successors program text = some next) :
    Tracked program text origin (v.insert (r.thread.point program.size origin))
      (r.ways next ++ rest) := by
  have hin := h.inRange r List.mem_cons_self
  have hseen {site : ℕ × ℕ} : Seen program text origin
        (v.insert (r.thread.point program.size origin)) site ↔
      Seen program text origin v site ∨ site = r.thread.site := seen_insert_iff hin h.room
  have hways : ∀ x ∈ r.ways next, ∃ s ∈ next, x = ⟨r.thread.site :: r.passed, s⟩ := by
    intro x hx
    obtain ⟨s, hs, rfl⟩ := List.mem_map.mp hx
    exact ⟨s, hs, rfl⟩
  constructor
  case inRange =>
    intro x hx
    rcases List.mem_append.mp hx with hx | hx
    · obtain ⟨s, hs, rfl⟩ := hways x hx
      exact hin.of_successors hprogram hnext hs
    · exact h.inRange x (List.mem_cons_of_mem _ hx)
  case passed =>
    intro x hx site hsite
    rcases List.mem_append.mp hx with hx | hx
    · obtain ⟨s, -, rfl⟩ := hways x hx
      rcases List.mem_cons.mp hsite with rfl | hsite
      · exact hseen.mpr (.inr rfl)
      · exact hseen.mpr (.inl (h.passed r List.mem_cons_self site hsite))
    · exact hseen.mpr (.inl (h.passed x (List.mem_cons_of_mem _ hx) site hsite))
  case nested =>
    refine List.pairwise_append.mpr ⟨?_, h.nested.of_cons, ?_⟩
    · refine List.pairwise_of_forall_mem_list fun x hx y hy => ?_
      obtain ⟨s, -, rfl⟩ := hways x hx
      obtain ⟨s', -, rfl⟩ := hways y hy
      exact List.Subset.refl _
    · intro x hx y hy
      obtain ⟨s, -, rfl⟩ := hways x hx
      exact fun z hz => List.mem_cons_of_mem _ (List.rel_of_pairwise_cons h.nested hy hz)
  case goesOn =>
    intro t ht
    rcases hseen.mp ht with ht | hsite
    · obtain ⟨next', hnext', hs⟩ := h.goesOn t ht
      refine ⟨next', hnext', fun s hsnext => ?_⟩
      rcases hs s hsnext with hs | ⟨x, hx, hxsite, hpassed⟩
      · exact .inl (hseen.mpr (.inl hs))
      · rcases List.mem_cons.mp hx with rfl | hx
        · exact .inl (hseen.mpr (.inr hxsite.symm))
        · exact .inr ⟨x, List.mem_append_right _ hx, hxsite, hpassed⟩
    · obtain ⟨next', hnext', hsites⟩ := Thread.successors_of_site_eq hsite.symm hnext
      refine ⟨next', hnext', fun s hs => .inr ?_⟩
      have hmem : s.site ∈ next.map Thread.site := hsites ▸ List.mem_map_of_mem hs
      obtain ⟨s', hs', heq⟩ := List.mem_map.mp hmem
      exact ⟨⟨r.thread.site :: r.passed, s'⟩, List.mem_append_left _ (List.mem_map_of_mem hs'), heq,
        hsite ▸ List.mem_cons_self⟩
  case room =>
    rw [Visited.size_insert]
    exact h.room

/-- The trails to sites that have been visited are given up one by one. -/
lemma dropWhile (h : Tracked program text origin v trails) :
    Tracked program text origin v
      (trails.dropWhile fun r => v.contains (r.thread.point program.size origin)) ∧
    ∀ {found}, Backtracks program text
        (trails.dropWhile fun r => v.contains (r.thread.point program.size origin)) found →
      Backtracks program text trails found := by
  induction trails with
  | nil => exact ⟨h, id⟩
  | cons r rest ih =>
      by_cases hv : v.contains (r.thread.point program.size origin)
      · have hseen := (seen_iff (h.inRange r List.mem_cons_self)).mpr hv
        obtain ⟨hrest, hback⟩ := ih (h.drop hseen)
        rw [List.dropWhile_cons, if_pos hv]
        exact ⟨hrest, fun hfound => h.backtracks_of_seen hseen (hback hfound)⟩
      · rw [List.dropWhile_cons, if_neg hv]
        exact ⟨h, id⟩

end Tracked

/-- **The search finds what backtracking finds.**  If that is nothing, every way on from a site that
has been visited leads to such a site again. -/
theorem backtracks_explore (hprogram : IsSelfContained program) {rounds : ℕ}
    (h : Tracked program text origin v trails)
    (hrounds : unvisited program text origin v < rounds) :
    Backtracks program text trails
        (explore program text origin rounds v (trails.map Trail.thread)).1 ∧
      ((explore program text origin rounds v (trails.map Trail.thread)).1 = none →
        Tracked program text origin
          (explore program text origin rounds v (trails.map Trail.thread)).2 []) := by
  induction rounds generalizing v trails with
  | zero => omega
  | succ rounds ih =>
      obtain ⟨htracked, hback⟩ := h.dropWhile
      have hmap : (trails.map Trail.thread).dropWhile
            (fun t => v.contains (t.point program.size origin))
          = (trails.dropWhile
              fun r => v.contains (r.thread.point program.size origin)).map Trail.thread :=
        List.dropWhile_map ..
      rw [explore, hmap]
      cases hdrop : trails.dropWhile fun r => v.contains (r.thread.point program.size origin) with
      | nil =>
          rw [hdrop] at htracked hback
          exact ⟨hback .nothing, fun _ => htracked⟩
      | cons r rest =>
          rw [hdrop] at htracked hback
          have hin := htracked.inRange r List.mem_cons_self
          have hnew : v.contains (r.thread.point program.size origin) = false := by
            have := List.head?_dropWhile_not
              (fun r : Trail => v.contains (r.thread.point program.size origin)) trails
            simpa [hdrop] using this
          have hpassed : r.thread.site ∉ r.passed := fun hmem => by
            have hseen := (seen_iff hin).mp (htracked.passed r List.mem_cons_self _ hmem)
            rw [hnew] at hseen
            cases hseen
          rw [List.map_cons]
          cases hnext : r.thread.successors program text with
          | none =>
              simp only [hnext]
              exact ⟨hback (.accept hpassed hnext), fun hnone => by cases hnone⟩
          | some next =>
              simp only [hnext]
              have hpoint : r.thread.point program.size origin / Visited.wordSize < v.words.size :=
                lt_of_le_of_lt (Nat.div_le_div_right hin.point_lt.le) htracked.room
              have hless := unvisited_insert_lt hpoint hin.point_lt hnew
              have hthreads : (r.ways next ++ rest).map Trail.thread
                  = next ++ rest.map Trail.thread := by
                simp [Trail.ways, Function.comp_def]
              obtain ⟨hfound, hvain⟩ := ih (htracked.expand hprogram hnext) (by omega)
              rw [hthreads] at hfound hvain
              exact ⟨hback (.goOn hpassed hnext hfound), hvain⟩

end

end Scratchpad.Pattern
