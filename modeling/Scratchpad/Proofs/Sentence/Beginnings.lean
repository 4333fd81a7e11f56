import Scratchpad.Proofs.Pattern.Find
import Scratchpad.Proofs.Replace.Between
import Scratchpad.Proofs.Replace.Passes
import Scratchpad.Sentence

/-!
# Where sentences begin

Whatever pattern says where sentences end, a capitalizer changes single characters at places that
can be told from the matches: the beginning of the text and the ends of matches, unless a match goes
on there.

* `Begins` — the places where a sentence begins.
* `raise` — a text with the characters at some places in upper case.
* `sentences_eq_raise` — capitalizing between the matches raises the characters where sentences
  begin.
* **`apply_ofPattern`** — a capitalizer for a pattern raises these characters and keeps all others.
-/

namespace Scratchpad.Capitalizer

open Pattern (Match Regex Successive InOrder successive_allMatches allMatches_empty)
open Replace (between between_append_between length_between)
open Unicode (upper capitalize)

/-! ## Places -/

/-- A sentence begins at a place if this is where the text begins, or where a match ends, and the
place lies in no match. -/
def Begins (start : ℕ) (ms : List Match) (place : ℕ) : Prop :=
  (place = start ∨ ∃ m ∈ ms, m.stop = place) ∧ ∀ m ∈ ms, ¬ (m.start ≤ place ∧ place < m.stop)

instance (start : ℕ) (ms : List Match) : DecidablePred (Begins start ms) := fun _ =>
  instDecidableAnd

/-- A text with the characters at some places in upper case.  Its first character has the number
`place`. -/
def raise (P : ℕ → Prop) [DecidablePred P] : (place : ℕ) → List Char → List Char
  | _, [] => []
  | place, c :: cs => (if P place then upper c else [c]) ++ raise P (place + 1) cs

section

variable {P Q : ℕ → Prop} [DecidablePred P] [DecidablePred Q] {place : ℕ} {cs : List Char}

lemma raise_append (P : ℕ → Prop) [DecidablePred P] (place : ℕ) (cs ds : List Char) :
    raise P place (cs ++ ds) = raise P place cs ++ raise P (place + cs.length) ds := by
  induction cs generalizing place with
  | nil => rfl
  | cons c cs ih =>
      rw [List.cons_append, raise, raise, ih, List.append_assoc, List.length_cons,
        Nat.add_right_comm, Nat.add_assoc]

lemma raise_congr (h : ∀ p, place ≤ p → p < place + cs.length → (P p ↔ Q p)) :
    raise P place cs = raise Q place cs := by
  induction cs generalizing place with
  | nil => rfl
  | cons c cs ih =>
      rw [List.length_cons] at h
      rw [raise, raise, ih fun p hle hlt => h p (by omega) (by omega)]
      simp only [h place le_rfl (by omega)]

/-- Without a place to be raised a text stays as it is, -/
lemma raise_of_forall_not (h : ∀ p, place ≤ p → p < place + cs.length → ¬ P p) :
    raise P place cs = cs := by
  induction cs generalizing place with
  | nil => rfl
  | cons c cs ih =>
      rw [List.length_cons] at h
      rw [raise, if_neg (h place le_rfl (by omega)), ih fun p hle hlt => h p (by omega) (by omega),
        List.singleton_append]

/-- and so does one whose characters are their own upper case. -/
lemma raise_of_forall_upper (P : ℕ → Prop) [DecidablePred P] (place : ℕ)
    (h : ∀ c ∈ cs, upper c = [c]) : raise P place cs = cs := by
  induction cs generalizing place with
  | nil => rfl
  | cons c cs ih =>
      obtain ⟨hc, hcs⟩ := List.forall_mem_cons.mp h
      rw [raise, ih _ hcs, hc, ite_self, List.singleton_append]

/-- If only the first character is raised, the text is capitalized. -/
lemma raise_eq_capitalize (h : ∀ p, place ≤ p → p < place + cs.length → (P p ↔ p = place)) :
    raise P place cs = capitalize cs := by
  cases cs with
  | nil => rfl
  | cons c cs =>
      rw [List.length_cons] at h
      have hrest : raise P (place + 1) cs = cs := by
        refine raise_of_forall_not fun p hle hlt hp => ?_
        have := (h p (by omega) (by omega)).mp hp
        omega
      rw [raise, if_pos ((h place le_rfl (by omega)).mpr rfl), hrest, capitalize]

/-- If every character is raised, the whole text is in upper case. -/
lemma raise_of_forall (h : ∀ p, place ≤ p → p < place + cs.length → P p) :
    raise P place cs = cs.flatMap upper := by
  induction cs generalizing place with
  | nil => rfl
  | cons c cs ih =>
      rw [List.length_cons] at h
      rw [raise, if_pos (h place le_rfl (by omega)), ih fun p hle hlt => h p (by omega) (by omega),
        List.flatMap_cons]

end

/-! ## Matches -/

section

variable {text : Array Char} {size start place : ℕ} {m : Match} {ms : List Match}

/-- In front of the first match a sentence begins only where the text does, -/
lemma begins_before_iff (h : InOrder size start (m :: ms)) (hle : start ≤ place)
    (hlt : place < m.start) : Begins start (m :: ms) place ↔ place = start := by
  obtain ⟨-, hstop, -, hrest⟩ := h
  have hlater : ∀ n ∈ m :: ms, place < n.start ∧ place < n.stop := by
    intro n hn
    rcases List.mem_cons.mp hn with rfl | hn
    · omega
    · have := hrest.le_of_mem hn
      omega
  constructor
  · rintro ⟨heq | ⟨n, hn, rfl⟩, -⟩
    · exact heq
    · exact absurd (hlater n hn).2 (lt_irrefl _)
  · rintro rfl
    exact ⟨.inl rfl, fun n hn hin => absurd (hlater n hn).1 (not_lt.mpr hin.1)⟩

/-- and behind the first match only where it does behind that match. -/
lemma begins_behind_iff (h : InOrder size start (m :: ms)) (hle : m.stop ≤ place) :
    Begins start (m :: ms) place ↔ Begins m.stop ms place := by
  obtain ⟨hstart, hstop, -, -⟩ := h
  have hm : ¬ (m.start ≤ place ∧ place < m.stop) := by omega
  have hfirst : place = start ∨ m.stop = place ↔ place = m.stop := by omega
  simp only [Begins, List.exists_mem_cons_iff, List.forall_mem_cons, hm, not_false_eq_true,
    true_and, ← or_assoc, hfirst]

/-- **Capitalizing between matches** raises the characters where sentences begin. -/
theorem sentences_eq_raise (h : InOrder text.size start ms) :
    sentences text start ms = raise (Begins start ms) start (between text start text.size) := by
  induction ms generalizing start with
  | nil =>
      rw [sentences, raise_eq_capitalize]
      simp [Begins]
  | cons m ms ih =>
      obtain ⟨hstart, hstop, hsize, hrest⟩ := id h
      have hgap : start + (between text start m.start).length = m.start := by
        rw [length_between (hstop.trans hsize)]
        omega
      have hmatch : m.start + (between text m.start m.stop).length = m.stop := by
        rw [length_between hsize]
        omega
      have hbefore : raise (Begins start (m :: ms)) start (between text start m.start)
          = capitalize (between text start m.start) :=
        raise_eq_capitalize fun p hle hlt => begins_before_iff h hle (by omega)
      have hwithin : raise (Begins start (m :: ms)) m.start (between text m.start m.stop)
          = between text m.start m.stop :=
        raise_of_forall_not fun p hle hlt hp => hp.2 m List.mem_cons_self ⟨hle, by omega⟩
      have hbehind : raise (Begins start (m :: ms)) m.stop (between text m.stop text.size)
          = sentences text m.stop ms := by
        rw [ih hrest]
        exact raise_congr fun p hle _ => begins_behind_iff h hle
      rw [sentences, ← between_append_between (hstart.trans hstop) hsize,
        ← between_append_between hstart hstop, raise_append, raise_append, List.length_append,
        ← Nat.add_assoc, hgap, hmatch, hbefore, hwithin, hbehind]

end

/-! ## Patterns -/

lemma ofPattern_eq_ok_iff {pattern : String} {c : Capitalizer} :
    Capitalizer.ofPattern pattern = .ok c ↔ Regex.compile pattern = .ok c.sentenceEnd := by
  rw [ofPattern]
  cases Regex.compile pattern with
  | ok regex =>
      obtain ⟨r⟩ := c
      simp
  | error reason => simp

lemma compile_empty : Regex.compile "" = .ok (.ofExpr .empty) := by decide +kernel

/-- With the empty pattern a sentence begins at every character. -/
lemma begins_of_empty {text : Array Char} {place : ℕ} (h : place < text.size) :
    Begins 0 ((Regex.ofExpr .empty).find text) place := by
  have hfind : (Regex.ofExpr .empty).find text
      = (List.range (text.size + 1)).map fun p => ⟨p, p, []⟩ := allMatches_empty text
  rw [hfind]
  refine ⟨.inr ⟨⟨place, place, []⟩, List.mem_map.mpr ⟨place, ?_, rfl⟩, rfl⟩, ?_⟩
  · exact List.mem_range.mpr (by omega)
  · intro m hm
    obtain ⟨p, -, rfl⟩ := List.mem_map.mp hm
    dsimp only
    omega

/-- **A capitalizer for a pattern** writes the characters where sentences begin in upper case and
keeps all others.  Its matches follow one another through the text, and none reaches into the next.
So a text without lower case stays as it is, and with the empty pattern every character is written
in upper case. -/
theorem apply_ofPattern {pattern : String} {c : Capitalizer}
    (h : Capitalizer.ofPattern pattern = .ok c) (s : String) :
    let text := s.toList.toArray
    let ms := c.sentenceEnd.find text
    (∀ ns, Successive c.sentenceEnd.program text 0 none ns ↔ ns = ms) ∧ InOrder text.size 0 ms ∧
      (c.apply s).toList = raise (Begins 0 ms) 0 s.toList ∧
      ((∀ d ∈ s.toList, upper d = [d]) → c.apply s = s) ∧
      (pattern = "" → (c.apply s).toList = s.toList.flatMap upper) := by
  intro text ms
  have hcompile := ofPattern_eq_ok_iff.mp h
  obtain ⟨e, -, he⟩ := Pattern.exists_meaning_of_compile hcompile
  have hms : Successive c.sentenceEnd.program text 0 none ms := by
    dsimp only [ms]
    rw [Regex.find, he]
    exact successive_allMatches e text
  have hraise : (c.apply s).toList = raise (Begins 0 ms) 0 s.toList := by
    rw [apply, String.toList_ofList, sentences_eq_raise hms.inOrder]
    simp [between, text, ms]
  refine ⟨fun ns => ⟨fun hns => hns.unique hms, fun hns => hns ▸ hms⟩, hms.inOrder, hraise, ?_, ?_⟩
  · intro hupper
    rw [← String.toList_inj, hraise, raise_of_forall_upper _ 0 hupper]
  · rintro rfl
    have hempty : c.sentenceEnd = .ofExpr .empty :=
      Except.ok.inj (hcompile.symm.trans compile_empty)
    rw [hraise]
    refine raise_of_forall fun p _ hlt => ?_
    dsimp only [ms]
    rw [hempty]
    exact begins_of_empty (by simpa [text] using hlt)

/-- Every match of a word boundary is empty, and so is every match of the empty pattern. -/
theorem apply_ofPattern_empty_matches :
    (∃ c, Capitalizer.ofPattern "\\b" = .ok c ∧
      (c.sentenceEnd.find "ab ßd".toList.toArray).map Match.stop = [0, 2, 3, 5] ∧
      (c.apply "ab ßd").toList = raise (Begins 0 (c.sentenceEnd.find "ab ßd".toList.toArray)) 0
        "ab ßd".toList ∧ c.apply "ab ßd" = "Ab SSd") ∧
    ∃ c, Capitalizer.ofPattern "" = .ok c ∧
      (c.apply "é. ŉ").toList = "é. ŉ".toList.flatMap upper := by
  have hboundary : Capitalizer.ofPattern "\\b" = .ok ⟨.ofExpr (.look (.word false .boundary))⟩ := by
    decide +kernel
  have hempty : Capitalizer.ofPattern "" = .ok ⟨.ofExpr .empty⟩ :=
    ofPattern_eq_ok_iff.mpr compile_empty
  obtain ⟨-, -, hraise, -, -⟩ := apply_ofPattern hboundary "ab ßd"
  obtain ⟨-, -, -, -, hupper⟩ := apply_ofPattern hempty "é. ŉ"
  exact ⟨⟨_, hboundary, by decide +kernel, hraise, by decide +kernel⟩, _, hempty, hupper rfl⟩

end Scratchpad.Capitalizer
