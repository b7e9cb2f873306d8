/-!
# Blank characters and trimming

A character is blank when it has the White_Space property of the Unicode standard.

* `isBlank`, `trim`: the class and the text without its blank ends;
* `trimChars_eq_nil_iff`, `isEmpty_trim`: only blank text trims to nothing;
* `trim_trim`: trimmed text has no blank ends.
-/

namespace DeployWatch.Text

/-- The White_Space property. -/
def isBlank (c : Char) : Bool :=
  let n := c.toNat
  (9 ≤ n && n ≤ 13) || n == 0x20 || n == 0x85 || n == 0xA0 || n == 0x1680 ||
    (0x2000 ≤ n && n ≤ 0x200A) || n == 0x2028 || n == 0x2029 || n == 0x202F || n == 0x205F ||
    n == 0x3000

/-- The text without the blanks it starts with. -/
def trimStart (cs : List Char) : List Char := cs.dropWhile isBlank

/-- The text without the blanks it ends with. -/
def trimEnd (cs : List Char) : List Char := (cs.reverse.dropWhile isBlank).reverse

/-- The text without the blanks at its two ends. -/
def trimChars (cs : List Char) : List Char := trimEnd (trimStart cs)

/-- `trimChars` on strings. -/
def trim (s : String) : String := String.ofList (trimChars s.toList)

/-- Whether a text is empty or blank throughout. -/
def isBlankText (s : String) : Bool := s.toList.all isBlank

/-! ## Laws -/

theorem dropWhile_eq_nil {p : Char → Bool} {cs : List Char} :
    cs.dropWhile p = [] ↔ ∀ c ∈ cs, p c = true := by
  induction cs with
  | nil => simp
  | cons a r ih => by_cases ha : p a = true <;> simp [ha, ih]

theorem trimEnd_eq_nil_iff {cs : List Char} : trimEnd cs = [] ↔ ∀ c ∈ cs, isBlank c = true := by
  rw [trimEnd, List.reverse_eq_nil_iff, dropWhile_eq_nil]
  simp

/-- Only a text that is blank throughout trims to nothing. -/
theorem trimChars_eq_nil_iff {cs : List Char} :
    trimChars cs = [] ↔ ∀ c ∈ cs, isBlank c = true := by
  rw [trimChars, trimEnd_eq_nil_iff, trimStart]
  induction cs with
  | nil => simp
  | cons a r ih => by_cases ha : isBlank a = true <;> simp [ha, ih]

theorem isEmpty_trim (s : String) : (trim s).isEmpty = isBlankText s := by
  rw [Bool.eq_iff_iff, String.isEmpty_iff, ← String.toList_eq_nil_iff, trim, String.toList_ofList,
    trimChars_eq_nil_iff, isBlankText, List.all_eq_true]

theorem head?_trimStart {cs : List Char} {c : Char} (h : (trimStart cs).head? = some c) :
    isBlank c = false := by
  have hhead := List.head?_dropWhile_not isBlank cs
  rw [trimStart] at h
  rwa [h] at hhead

theorem trimStart_of_head? {cs : List Char} (h : ∀ c, cs.head? = some c → isBlank c = false) :
    trimStart cs = cs := by
  cases cs with
  | nil => rfl
  | cons c cs => exact List.dropWhile_cons_of_neg (by simp [h c rfl])

theorem trimStart_trimStart (cs : List Char) : trimStart (trimStart cs) = trimStart cs :=
  trimStart_of_head? fun _ => head?_trimStart

theorem trimEnd_trimEnd (cs : List Char) : trimEnd (trimEnd cs) = trimEnd cs := by
  show (trimStart (trimStart cs.reverse).reverse.reverse).reverse = (trimStart cs.reverse).reverse
  rw [List.reverse_reverse, trimStart_trimStart]

theorem trimEnd_prefix (cs : List Char) : trimEnd cs <+: cs := by
  have h : (cs.reverse.dropWhile isBlank).reverse <+: cs.reverse.reverse :=
    List.reverse_prefix.mpr (List.dropWhile_suffix _)
  rwa [List.reverse_reverse] at h

/-- Trimming the end leaves the first character alone, if it leaves any. -/
theorem trimStart_trimChars (cs : List Char) : trimStart (trimChars cs) = trimChars cs := by
  refine trimStart_of_head? fun c hc => ?_
  obtain ⟨rest, hrest⟩ := trimEnd_prefix (trimStart cs)
  have hhead : (trimStart cs).head? = some c := by
    rw [trimChars] at hc
    rw [← hrest, List.head?_append, hc]
    rfl
  exact head?_trimStart hhead

theorem trim_trim (s : String) : trim (trim s) = trim s := by
  unfold trim
  rw [String.toList_ofList]
  show String.ofList (trimEnd (trimStart (trimChars s.toList))) = _
  rw [trimStart_trimChars, trimChars, trimEnd_trimEnd]

end DeployWatch.Text
