import Scratchpad.Proofs.Rule.RoundTrip
import Scratchpad.Replace.CompiledRule

/-!
# Variants of writable rules

The capitalized variant of a rule is logged in its written form, so it must be as readable as the
rule itself.  It is, for two reasons: no character but the quote has a quote in its upper case
(`quote_notMem_upper`), and what ends a pattern begins with a quote, so that a first character of
another kind has no part in it (`writable_variant`).
-/

namespace Scratchpad

namespace Unicode

lemma ofNat_ne_quote {n : ℕ} (h : '"'.toNat < n) : Char.ofNat n ≠ '"' := by
  intro heq
  by_cases hv : n.isValidChar
  · have : (Char.ofNat n).toNat = n := by simp [Char.ofNat, hv, Char.toNat, Char.ofNatAux]
    rw [heq] at this
    omega
  · rw [Char.ofNat, dif_neg hv] at heq
    exact absurd heq (by decide)

/-- All images of the upper-case table lie behind the quote. -/
lemma quote_lt_image : ∀ s ∈ upperShifts, '"'.toNat < s.image := by decide +kernel

lemma quote_lt_expansion : ∀ e ∈ upperExpansions, ∀ n ∈ e.2, '"'.toNat < n := by decide +kernel

/-- Only the quote has a quote in its upper case. -/
lemma quote_notMem_upper {c : Char} (h : c ≠ '"') : '"' ∉ upper c := by
  unfold upper
  split
  · next n hn =>
    obtain ⟨s, hs, rfl⟩ := Option.map_eq_some_iff.mp hn
    have := quote_lt_image s (List.mem_of_find?_eq_some hs)
    simp only [List.mem_singleton]
    exact (ofNat_ne_quote (by omega)).symm
  · split
    · next ns hns =>
      intro hq
      obtain ⟨n, hn, heq⟩ := List.mem_map.mp hq
      obtain ⟨l₁, l₂, hl, -⟩ := List.lookup_eq_some_iff.mp hns
      have hmem : (c.toNat, ns) ∈ upperExpansions := by rw [hl]; simp
      exact ofNat_ne_quote (quote_lt_expansion _ hmem n hn) heq
    · simpa using h.symm

lemma upper_quote : upper '"' = ['"'] := by decide

end Unicode

namespace Rule

open Unicode (capitalize upper)

/-- Capitalizing a text brings no quote into it. -/
lemma quote_notMem_capitalize {cs : List Char} (h : '"' ∉ cs) : '"' ∉ capitalize cs := by
  cases cs with
  | nil => simp [capitalize]
  | cons c cs =>
      simp [capitalize, Unicode.quote_notMem_upper (List.ne_of_not_mem_cons h).symm,
        List.not_mem_of_not_mem_cons h]

/-- Nor does it make an end of a pattern. -/
lemma not_closing_capitalize {p : List Char} (h : ∀ s, IsClosing s → ¬ s <:+: p ++ ['"']) :
    ∀ s, IsClosing s → ¬ s <:+: capitalize p ++ ['"'] := by
  cases p with
  | nil => exact h
  | cons c cs =>
      by_cases hc : c = '"'
      · subst hc
        rwa [capitalize, Unicode.upper_quote]
      · intro s hs hin
        obtain ⟨p₁, p₂, a, body, hp, ha, hbody⟩ := exists_closing_iff.mp ⟨s, hs, hin⟩
        -- the quote lies behind the capital, in the part that has not changed
        have hmem : ∃ p₁', cs = p₁' ++ '"' :: p₂ := by
          rcases List.append_eq_append_iff.mp hp with ⟨t, -, ht⟩ | ⟨t, hu, ht⟩
          · exact ⟨t, ht⟩
          · cases t with
            | nil => exact ⟨[], by simpa using ht.symm⟩
            | cons d t =>
                obtain ⟨rfl, -⟩ := List.cons.inj ht
                exact absurd (hu ▸ by simp) (Unicode.quote_notMem_upper hc)
        obtain ⟨p₁', rfl⟩ := hmem
        obtain ⟨s', hs', hin'⟩ := exists_closing_iff.mpr ⟨c :: p₁', p₂, a, body, rfl, ha, hbody⟩
        exact h s' hs' hin'

/-- **Every variant of a writable rule is writable.** -/
theorem writable_variant {r : Rule} (h : r.Writable) (v : Variant) : (r.variant v).Writable := by
  cases v with
  | asWritten => exact h
  | capitalized =>
      exact
        { patternFlags := h.patternFlags
          replacementFlags := h.replacementFlags
          replacement := by
            simpa [variant, upperFirst] using quote_notMem_capitalize h.replacement
          pattern := by simpa [variant, upperFirst] using not_closing_capitalize h.pattern }

end Rule

end Scratchpad
