import DeployWatch.Text.Search
import Mathlib

/-!
# What a search finds

A search for a word finds it in any case. It is told here by the places at which the word can stand, and
by what can be put in front of a text without changing the outcome.

* `IsCaseOf`, `InAnyCase`, `foldCase_eq_iff`, `dropFold_eq_some_iff`: a word in any case;
* `Contains`, `ContainsAsPhrase`: where it stands, and where no word character touches it;
* **`containsFold_iff`**, **`containsPhrase_iff`**: the searches find just that;
* `StopsAt`, `anySuffix_stop`, `containsPhrase_stop`: no word goes across a character that it does not
  have;
* `anySuffix_skip`, `containsPhrase_skip`: no word starts at a character that is not its first.
-/

namespace DeployWatch.Text

/-! ## Words in any case -/

/-- A character is a lower-case one in some case: that one, its capital, or one of the two further
characters that fold to a letter of ASCII, the long s and the sign of the kelvin. -/
def IsCaseOf (w c : Char) : Prop :=
  c = w ∨ c = w.toUpper ∨ w = 's' ∧ c = '\u017F' ∨ w = 'k' ∧ c = '\u212A'

/-- A text is a lower-case word in some case. -/
def InAnyCase (word cs : List Char) : Prop := List.Forall₂ IsCaseOf word cs

/-- The characters of lower-case words: those of ASCII that are no capitals. -/
def IsLower (w : Char) : Prop := w.toNat < 0x80 ∧ w.isUpper = false

instance : DecidablePred IsLower := fun w =>
  inferInstanceAs (Decidable (w.toNat < 0x80 ∧ w.isUpper = false))

variable {word front mid back cs : List Char} {w c stop : Char}

theorem IsLower.toLower_eq (hw : IsLower w) : w.toLower = w :=
  Char.toLower_eq_of_not_isUpper (by simp [hw.2])

theorem IsLower.ne (hw : IsLower w) (hc : 0x80 ≤ c.toNat) : w ≠ c := by
  rintro rfl
  exact absurd hw.1 (Nat.not_lt.mpr hc)

/-- Characters of ASCII fold to their lower case. -/
theorem foldCase_eq_toLower (hlong : c ≠ '\u017F') (hkelvin : c ≠ '\u212A') :
    foldCase c = c.toLower := by
  rw [foldCase, if_neg hlong, if_neg hkelvin]

theorem foldCase_eq_iff (hw : IsLower w) : foldCase c = w ↔ IsCaseOf w c := by
  constructor
  · intro h
    by_cases hlong : c = '\u017F'
    · subst hlong
      exact .inr (.inr (.inl ⟨h.symm, rfl⟩))
    by_cases hkelvin : c = '\u212A'
    · subst hkelvin
      exact .inr (.inr (.inr ⟨h.symm, rfl⟩))
    rw [foldCase_eq_toLower hlong hkelvin] at h
    by_cases hc : c.isUpper = true
    · right; left
      rw [← h, Char.toUpper_toLower_eq_toUpper,
        Char.toUpper_eq_of_not_isLower (Char.not_isLower_of_isUpper hc)]
    · exact .inl ((Char.toLower_eq_of_not_isUpper hc).symm.trans h)
  · have hfold : c.toLower = w → foldCase c = w := by
      intro h
      -- The two further characters are their own lower case, and not of ASCII.
      refine (foldCase_eq_toLower ?_ ?_).trans h <;> rintro rfl
      · exact hw.ne (c := '\u017F') (by decide) h.symm
      · exact hw.ne (c := '\u212A') (by decide) h.symm
    rintro (rfl | rfl | ⟨rfl, rfl⟩ | ⟨rfl, rfl⟩)
    · exact hfold hw.toLower_eq
    · exact hfold ((Char.toLower_toUpper_eq_toLower w).trans hw.toLower_eq)
    · rfl
    · rfl

/-- **A word is dropped** from a text that starts with it in some case. -/
theorem dropFold_eq_some_iff (hword : ∀ w ∈ word, IsLower w) :
    dropFold word cs = some back ↔ ∃ mid, cs = mid ++ back ∧ InAnyCase word mid := by
  induction word generalizing cs with
  | nil =>
    constructor
    · intro h
      exact ⟨[], Option.some.inj h, .nil⟩
    · rintro ⟨mid, rfl, hmid⟩
      cases hmid
      rfl
  | cons w word ih =>
    have hrest := fun x hx => hword x (List.mem_cons_of_mem _ hx)
    have hw := fun c => foldCase_eq_iff (c := c) (hword w List.mem_cons_self)
    cases cs with
    | nil =>
      constructor
      · rintro ⟨⟩
      · rintro ⟨mid, hsplit, hmid⟩
        cases hmid
        cases hsplit
    | cons c cs =>
      rw [dropFold]
      constructor
      · intro h
        split at h
        · obtain ⟨mid, rfl, hmid⟩ := (ih hrest).mp h
          exact ⟨c :: mid, rfl, List.Forall₂.cons ((hw c).mp ‹_›) hmid⟩
        · cases h
      · rintro ⟨mid, hsplit, hmid⟩
        cases hmid with
        | cons hc hmid =>
          obtain ⟨rfl, rfl⟩ := List.cons.inj hsplit
          rw [if_pos ((hw c).mpr hc)]
          exact (ih hrest).mpr ⟨_, rfl, hmid⟩

theorem matchesFold_iff (hword : ∀ w ∈ word, IsLower w) :
    matchesFold word cs = true ↔ ∃ mid, mid <+: cs ∧ InAnyCase word mid := by
  rw [matchesFold, Option.isSome_iff_exists]
  simp only [dropFold_eq_some_iff hword]
  constructor
  · rintro ⟨back, mid, rfl, hmid⟩
    exact ⟨mid, List.prefix_append .., hmid⟩
  · rintro ⟨mid, ⟨back, rfl⟩, hmid⟩
    exact ⟨back, mid, rfl, hmid⟩

/-! ## Where a word stands -/

/-- A text contains a word in some case. -/
def Contains (word cs : List Char) : Prop := ∃ mid, mid <:+: cs ∧ InAnyCase word mid

/-- A text contains a word in some case, with no word character right before or after it. -/
def ContainsAsPhrase (word cs : List Char) : Prop :=
  ∃ front mid back, cs = front ++ (mid ++ back) ∧ InAnyCase word mid ∧
    (∀ c ∈ front.getLast?, isWordChar c = false) ∧ ∀ c ∈ back.head?, isWordChar c = false

theorem anySuffix_iff {p : List Char → Bool} :
    anySuffix p cs = true ↔ ∃ back, back <:+ cs ∧ p back = true := by
  induction cs with
  | nil => simp [anySuffix]
  | cons c cs ih =>
    rw [anySuffix, Bool.or_eq_true, ih]
    simp only [List.suffix_cons_iff, or_and_right, exists_or, exists_eq_left]

/-- **A search finds a word** in a text that contains it. -/
theorem containsFold_iff (hword : ∀ w ∈ word, IsLower w) :
    containsFold word cs = true ↔ Contains word cs := by
  rw [containsFold, anySuffix_iff]
  simp only [matchesFold_iff hword]
  constructor
  · rintro ⟨back, hback, mid, hmid, hcase⟩
    exact ⟨mid, hmid.isInfix.trans hback.isInfix, hcase⟩
  · rintro ⟨mid, ⟨front, back, rfl⟩, hcase⟩
    exact ⟨mid ++ back, ⟨front, (List.append_assoc ..).symm⟩, mid, List.prefix_append .., hcase⟩

theorem matchesToBoundary_iff (hword : ∀ w ∈ word, IsLower w) :
    matchesToBoundary word cs = true ↔ ∃ mid back, cs = mid ++ back ∧ InAnyCase word mid ∧
      ∀ c ∈ back.head?, isWordChar c = false := by
  have hrest : matchesToBoundary word cs = true ↔
      ∃ back, dropFold word cs = some back ∧ ∀ c ∈ back.head?, isWordChar c = false := by
    unfold matchesToBoundary
    rcases dropFold word cs with _ | _ | ⟨c, back⟩ <;> simp
  rw [hrest]
  simp only [dropFold_eq_some_iff hword]
  constructor
  · rintro ⟨back, ⟨mid, hsplit, hmid⟩, hback⟩
    exact ⟨mid, back, hsplit, hmid, hback⟩
  · rintro ⟨mid, back, hsplit, hmid, hback⟩
    exact ⟨back, ⟨mid, hsplit, hmid⟩, hback⟩

theorem containsPhrase_cons {before : Option Char} : containsPhrase word before (c :: cs) =
    (!(before.any isWordChar) && matchesToBoundary word (c :: cs) ||
      containsPhrase word (some c) cs) := rfl

/-- What stands before a rest of the text: its last character, or else what stood before all of it. -/
theorem getLast?_cons_or {before : Option Char} :
    (c :: front).getLast?.or before = front.getLast?.or (some c) := by
  rw [List.getLast?_cons, Option.some_or, Option.or_some]

/-- A phrase is found at a suffix of the text that no word character stands before; the first suffix is
the text itself, after the character `before`. -/
theorem containsPhrase_before_iff {before : Option Char} :
    containsPhrase word before cs = true ↔ ∃ front back, cs = front ++ back ∧
      (∀ c ∈ front.getLast?.or before, isWordChar c = false) ∧
      matchesToBoundary word back = true := by
  have hbefore : ∀ o : Option Char,
      (!(o.any isWordChar)) = true ↔ ∀ c ∈ o, isWordChar c = false := by
    rintro (_ | c) <;> simp
  induction cs generalizing before with
  | nil =>
    rw [containsPhrase, Bool.or_false, Bool.and_eq_true, hbefore]
    constructor
    · rintro ⟨hc, hword⟩
      exact ⟨[], [], rfl, hc, hword⟩
    · rintro ⟨front, back, hsplit, hc, hword⟩
      obtain ⟨rfl, rfl⟩ := List.append_eq_nil_iff.mp hsplit.symm
      exact ⟨hc, hword⟩
  | cons c cs ih =>
    rw [containsPhrase_cons, Bool.or_eq_true, Bool.and_eq_true, hbefore]
    refine (or_congr Iff.rfl ih).trans ?_
    constructor
    · rintro (⟨hc, hword⟩ | ⟨front, back, rfl, hc, hword⟩)
      · exact ⟨[], c :: cs, rfl, hc, hword⟩
      · exact ⟨c :: front, back, rfl, getLast?_cons_or ▸ hc, hword⟩
    · rintro ⟨_ | ⟨d, front⟩, back, hsplit, hc, hword⟩
      · obtain rfl := hsplit
        exact .inl ⟨hc, hword⟩
      · obtain ⟨rfl, rfl⟩ := List.cons.inj hsplit
        exact .inr ⟨front, back, rfl, getLast?_cons_or ▸ hc, hword⟩

/-- **A search finds a phrase** in a text that contains it. -/
theorem containsPhrase_iff (hword : ∀ w ∈ word, IsLower w) :
    containsPhrase word none cs = true ↔ ContainsAsPhrase word cs := by
  rw [containsPhrase_before_iff]
  simp only [matchesToBoundary_iff hword, Option.or_none]
  constructor
  · rintro ⟨front, -, rfl, hfront, mid, back, rfl, hmid, hback⟩
    exact ⟨front, mid, back, rfl, hmid, hfront, hback⟩
  · rintro ⟨front, mid, back, rfl, hmid, hfront, hback⟩
    exact ⟨front, mid ++ back, rfl, hfront, mid, back, rfl, hmid, hback⟩

/-! ## Texts put in front -/

/-- A test of what a text starts with that does not read on after a character. -/
def StopsAt (stop : Char) (p : List Char → Bool) : Prop :=
  ∀ front back, p (front ++ stop :: back) = p front

/-- **A search does not read across** a character at which its test stops. -/
theorem anySuffix_stop {p : List Char → Bool} (hp : StopsAt stop p) :
    anySuffix p (front ++ stop :: back) = (anySuffix p front || anySuffix p back) := by
  induction front with
  | nil =>
    rw [List.nil_append, anySuffix, anySuffix]
    exact congrArg (· || anySuffix p back) (hp [] back)
  | cons c front ih =>
    rw [List.cons_append, anySuffix, anySuffix, ih, ← List.cons_append, hp, Bool.or_assoc]

/-- A test that holds of nothing that starts in the characters in front does not see them. -/
theorem anySuffix_skip {p : List Char → Bool} (hp : ∀ c ∈ front, ∀ cs, p (c :: cs) = false) :
    anySuffix p (front ++ cs) = anySuffix p cs := by
  induction front with
  | nil => rfl
  | cons c front ih =>
    rw [List.cons_append, anySuffix, hp c List.mem_cons_self, Bool.false_or,
      ih fun d hd => hp d (List.mem_cons_of_mem _ hd)]

theorem dropFold_stop (hstop : ∀ w ∈ word, foldCase stop ≠ w) :
    dropFold word (front ++ stop :: back) = (dropFold word front).map (· ++ stop :: back) := by
  induction word generalizing front with
  | nil => rfl
  | cons w word ih =>
    cases front with
    | nil => exact if_neg (hstop w List.mem_cons_self)
    | cons c front =>
      rw [List.cons_append, dropFold, dropFold]
      split
      · exact ih fun x hx => hstop x (List.mem_cons_of_mem _ hx)
      · rfl

theorem stopsAt_matchesFold (hstop : ∀ w ∈ word, foldCase stop ≠ w) :
    StopsAt stop (matchesFold word) := by
  intro front back
  rw [matchesFold, matchesFold, dropFold_stop hstop, Option.isSome_map]

theorem stopsAt_matchesToBoundary (hstop : ∀ w ∈ word, foldCase stop ≠ w)
    (hbound : isWordChar stop = false) : StopsAt stop (matchesToBoundary word) := by
  intro front back
  unfold matchesToBoundary
  rw [dropFold_stop hstop]
  rcases dropFold word front with _ | _ | ⟨c, rest⟩
  · rfl
  · exact congrArg (! ·) hbound
  · rfl

/-- No word starts at a character that is not its first in any case. -/
theorem dropFold_eq_none {w : Char} (hc : foldCase c ≠ w) : dropFold (w :: word) (c :: cs) = none :=
  if_neg hc

/-- Of the character before it a search needs only whether it touches. -/
theorem containsPhrase_before {before : Option Char} (hbefore : before.any isWordChar = false) :
    containsPhrase word before cs = containsPhrase word none cs := by
  have htouch : before.any isWordChar = (none : Option Char).any isWordChar := hbefore
  cases cs <;> rw [containsPhrase, containsPhrase, htouch]

/-- **A search for a phrase does not read across** a character that is no word character and that the
phrase does not have. -/
theorem containsPhrase_stop {before : Option Char} (hstop : ∀ w ∈ word, foldCase stop ≠ w)
    (hbound : isWordChar stop = false) : containsPhrase word before (front ++ stop :: back) =
      (containsPhrase word before front || containsPhrase word none back) := by
  have hp := stopsAt_matchesToBoundary hstop hbound
  induction front generalizing before with
  | nil =>
    rw [List.nil_append, containsPhrase_cons, @containsPhrase_before _ _ (some stop) hbound,
      containsPhrase, Bool.or_false]
    exact congrArg (_ && · || _) (hp [] back)
  | cons c front ih =>
    rw [List.cons_append, containsPhrase_cons, containsPhrase_cons, ih, ← List.cons_append, hp,
      Bool.or_assoc]

/-- A phrase does not start in characters that are not its first in any case. -/
theorem containsPhrase_skip {before : Option Char} (hfront : ∀ c ∈ front, foldCase c ≠ w) :
    containsPhrase (w :: word) before (front ++ cs) =
      containsPhrase (w :: word) (front.getLast?.or before) cs := by
  induction front generalizing before with
  | nil => rfl
  | cons c front ih =>
    have hc : matchesToBoundary (w :: word) (c :: (front ++ cs)) = false := by
      rw [matchesToBoundary, dropFold_eq_none (hfront c List.mem_cons_self)]
    rw [List.cons_append, containsPhrase_cons, hc, Bool.and_false, Bool.false_or,
      ih fun d hd => hfront d (List.mem_cons_of_mem _ hd), getLast?_cons_or]

end DeployWatch.Text
