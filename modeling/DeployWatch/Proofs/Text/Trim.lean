import DeployWatch.Text.Blank

/-!
# Text without blank ends

* `NoBlankEnds`: neither the first nor the last character is blank;
* `noBlankEnds_trimChars`: trimmed text is such a text;
* `trimChars_around`: trimming gives such a text back from among blanks.
-/

namespace DeployWatch.Text

/-- Neither end of a text is blank. -/
structure NoBlankEnds (cs : List Char) : Prop where
  first : ∀ c ∈ cs.head?, isBlank c = false
  last : ∀ c ∈ cs.getLast?, isBlank c = false

theorem any_isBlank_eq_false_iff {o : Option Char} :
    o.any isBlank = false ↔ ∀ c ∈ o, isBlank c = false := by
  cases o <;> simp

instance (cs : List Char) : Decidable (NoBlankEnds cs) :=
  decidable_of_iff (cs.head?.any isBlank = false ∧ cs.getLast?.any isBlank = false)
    ⟨fun h => ⟨any_isBlank_eq_false_iff.mp h.1, any_isBlank_eq_false_iff.mp h.2⟩,
      fun h => ⟨any_isBlank_eq_false_iff.mpr h.first, any_isBlank_eq_false_iff.mpr h.last⟩⟩

theorem noBlankEnds_trimChars (cs : List Char) : NoBlankEnds (trimChars cs) where
  first c hc := by
    rw [← trimStart_trimChars] at hc
    exact head?_trimStart hc
  last c hc := by
    rw [trimChars, trimEnd, List.getLast?_reverse] at hc
    exact head?_trimStart hc

theorem trimStart_append {front : List Char} (hfront : ∀ c ∈ front, isBlank c = true)
    (cs : List Char) : trimStart (front ++ cs) = trimStart cs :=
  List.dropWhile_append_of_pos hfront

theorem trimEnd_append {back : List Char} (hback : ∀ c ∈ back, isBlank c = true) (cs : List Char) :
    trimEnd (cs ++ back) = trimEnd cs := by
  have hreverse : ∀ c ∈ back.reverse, isBlank c = true := fun c hc => hback c (List.mem_reverse.mp hc)
  rw [trimEnd, List.reverse_append]
  exact congrArg List.reverse (trimStart_append hreverse _)

theorem trimEnd_of_noBlankEnds {cs : List Char} (h : NoBlankEnds cs) : trimEnd cs = cs := by
  have hreverse : trimStart cs.reverse = cs.reverse :=
    trimStart_of_head? fun c hc => h.last c (by rwa [List.head?_reverse] at hc)
  show (trimStart cs.reverse).reverse = cs
  rw [hreverse, List.reverse_reverse]

/-- Trimming takes the blanks around a text away, and no more. -/
theorem trimChars_around {front cs back : List Char} (hfront : ∀ c ∈ front, isBlank c = true)
    (hback : ∀ c ∈ back, isBlank c = true) (hcs : cs ≠ []) (h : NoBlankEnds cs) :
    trimChars (front ++ cs ++ back) = cs := by
  have hstart : trimStart (cs ++ back) = cs ++ back := by
    obtain ⟨d, ds, rfl⟩ := List.exists_cons_of_ne_nil hcs
    exact trimStart_of_head? fun c hc => h.first c hc
  rw [trimChars, List.append_assoc, trimStart_append hfront, hstart, trimEnd_append hback,
    trimEnd_of_noBlankEnds h]

end DeployWatch.Text
