import Scratchpad.Pattern.Group
import Scratchpad.Proofs.Unicode.CharSet

/-!
# Signs that are not part of a name

Which characters may stand in the name of a group is said by large tables.  Two facts are needed of
them: nothing before the letters is alphabetic, so that no name begins with a digit or a plus sign,
and the brace that closes is in no table.  Both follow from the first few runs of each table.

* `avoids_alphabetic`, `avoids_numeric` — what lies outside of the tables.
* `not_isNameChar_first`, `not_isNameChar_brace` — signs that cannot begin a name, or be in one.
-/

namespace Scratchpad.Pattern

open Unicode (CharSet findRuns? traitRuns categoryRuns rangesOfRuns readNumbers)

/-! ## Alphabetic characters -/

set_option maxRecDepth 4000 in
/-- How the table of the alphabetic characters begins. -/
lemma exists_alphabetic_runs : ∃ rest, (findRuns? "alphabetic" traitRuns).map String.toList
    = some ("41 1a 6 1a 2f 1 ".toList ++ rest) := by
  rw [traitRuns, findRuns?, List.find?_cons_of_neg (by decide), List.find?_cons_of_pos (by decide)]
  simp only [Option.map_some, String.toList_append, List.append_assoc]
  exact ⟨_, rfl⟩

/-- Before the letters, and behind them up to the brace that closes, nothing is alphabetic. -/
lemma avoids_alphabetic {n : ℕ} (h : n < 0x41 ∨ n = 0x7D) : alphabetic.Avoids n := by
  obtain ⟨rest, hrest⟩ := exists_alphabetic_runs
  obtain ⟨runs, hruns, hlist⟩ := Option.map_eq_some_iff.mp hrest
  have hadded : ∀ r ∈ Unicode.alphabeticAdditions.ranges, 0x7D < r.1 := by decide
  have hranges : (CharSet.ofRuns runs).ranges = (0x41, 0x5A) :: (0x61, 0x7A) :: (0xAA, 0xAA) ::
      rangesOfRuns 0xAB (readNumbers 0 rest) := by
    rw [CharSet.ofRuns, hlist]
    rfl
  refine CharSet.Avoids.union (fun r hr => ?_) ?_
  · have := hadded r hr
    omega
  · rw [hruns]
    unfold CharSet.Avoids
    dsimp only [Option.elim]
    rw [hranges]
    simp only [List.forall_mem_cons]
    refine ⟨?_, ?_, ?_, Unicode.avoids_rangesOfRuns ?_⟩ <;> omega

/-! ## Numbers -/

set_option maxRecDepth 4000 in
/-- How the table of the letters that are numbers begins, -/
lemma exists_letterNumber_runs : ∃ rest, (findRuns? "nl" categoryRuns).map String.toList
    = some ("16ee 3 ".toList ++ rest) := by
  rw [categoryRuns, findRuns?]
  simp (disch := decide) only [List.find?_cons_of_neg, List.find?_cons_of_pos, Option.map_some]
  exact ⟨_, rfl⟩

set_option maxRecDepth 4000 in
/-- and that of the numbers that are neither letters nor digits. -/
lemma exists_otherNumber_runs : ∃ rest, (findRuns? "no" categoryRuns).map String.toList
    = some ("b2 2 ".toList ++ rest) := by
  rw [categoryRuns, findRuns?]
  simp (disch := decide) only [List.find?_cons_of_neg, List.find?_cons_of_pos, Option.map_some,
    String.toList_append, List.append_assoc]
  exact ⟨_, rfl⟩

lemma category_number : Unicode.category? "n" = some (some
    (((CharSet.empty.union Unicode.decimalDigits).union (Unicode.categoryOf "nl")).union
      (Unicode.categoryOf "no"))) := by
  have hunion : Unicode.categoryUnions.find? (·.1.contains "n")
      = some (["n", "number"], ["nd", "nl", "no"]) := by decide
  have hdigits : Unicode.categoryOf "nd" = Unicode.decimalDigits := if_pos rfl
  rw [Unicode.category?, if_neg (by decide), if_neg (by decide), if_neg (by decide),
    if_neg (by decide), if_neg (by decide), if_neg (by decide), if_neg (by decide), hunion]
  simp only [List.headD_cons, Unicode.category?.unionOf, hunion, List.foldl_cons, List.foldl_nil,
    hdigits]

/-- What lies before the first run of a category is not of the category. -/
lemma avoids_categoryOf {name : String} {text : List Char} {n first : ℕ} {rest : List ℕ}
    (hname : name ≠ "nd") (hruns : (findRuns? name categoryRuns).map String.toList = some text)
    (hnumbers : readNumbers 0 text = first :: rest) (hlt : n < first) :
    (Unicode.categoryOf name).Avoids n := by
  obtain ⟨runs, hfind, rfl⟩ := Option.map_eq_some_iff.mp hruns
  rw [Unicode.categoryOf, if_neg hname, hfind]
  exact CharSet.avoids_ofRuns hnumbers hlt

/-- The brace that closes is no number. -/
lemma avoids_numeric : numeric.Avoids 0x7D := by
  have hdigits : (CharSet.empty.union Unicode.decimalDigits).Avoids 0x7D :=
    CharSet.Avoids.union (by decide) (by decide)
  have hletter : (Unicode.categoryOf "nl").Avoids 0x7D := by
    obtain ⟨rest, hruns⟩ := exists_letterNumber_runs
    exact avoids_categoryOf (by decide) hruns rfl (by decide)
  have hother : (Unicode.categoryOf "no").Avoids 0x7D := by
    obtain ⟨rest, hruns⟩ := exists_otherNumber_runs
    exact avoids_categoryOf (by decide) hruns rfl (by decide)
  rw [numeric, category_number]
  exact ((hdigits.union hletter).union hother).union (by decide)

/-! ## Both -/

/-- No name begins with a sign that stands before the letters, and so neither with a digit nor with
a plus sign. -/
lemma not_isNameChar_first {c : Char} (h : c.toNat < 0x41) : isNameChar true c = false := by
  have hunderscore : c ≠ '_' := by
    rintro rfl
    exact absurd h (by decide)
  simp [isNameChar, hunderscore, (avoids_alphabetic (.inl h)).contains]

/-- No name has a brace in it. -/
lemma not_isNameChar_brace (first : Bool) : isNameChar first '\x7d' = false := by
  have halphabetic : alphabetic.contains '\x7d' = false := (avoids_alphabetic (.inr rfl)).contains
  have hnumeric : numeric.contains '\x7d' = false := avoids_numeric.contains
  simp [isNameChar, halphabetic, hnumeric]

end Scratchpad.Pattern
