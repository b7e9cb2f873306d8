import DeployWatch.Proofs.Number.Digits
import DeployWatch.Proofs.Yaml.Shown

/-!
# Every readable value can be spelled out

A tag can make a number of a text that would be another number, or none, without the tag. So the text
from which a value was read need not spell it out; some text does.

* `ofPlain_of_int`, `ofPlain_of_float`: numbers that plain scalars stand for;
* `floatOfText_sign`, `exists_digits`: floating-point numbers whose text would be taken for a whole number
  or for no number are written in digits alone;
* `exists_plain_float`: with an exponent they are floating-point numbers again;
* **`Value.exists_shows`**: some node shows a readable value.
-/

namespace DeployWatch.Yaml

open DeployWatch.Number

namespace Scalar

/-! ## Plain numbers -/

/-- The texts that are looked at before numbers are stand for no number. -/
theorem numbers_of_word : ∀ s ∈ ["", "null", "Null", "NULL", "~", "true", "True", "TRUE", "false",
    "False", "FALSE"], intOfText s = none ∧ floatOfText s = none := by
  decide +kernel

theorem ofPlain_of_number {s : String} (h : intOfText s = none → floatOfText s ≠ none) :
    s.isEmpty = false ∧ isNullWord s = false ∧ boolOfText s = none := by
  have hword : s ∉ ["", "null", "Null", "NULL", "~", "true", "True", "TRUE", "false", "False",
      "FALSE"] := by
    intro hs
    obtain ⟨hint, hfloat⟩ := numbers_of_word s hs
    exact h hint hfloat
  simp only [List.mem_cons, List.not_mem_nil, or_false, not_or] at hword
  simp [isNullWord, boolOfText, hword]

theorem ofPlain_of_int {s : String} {n : Int} (h : intOfText s = some n) : ofPlain s = int n := by
  obtain ⟨hempty, hnull, hbool⟩ := ofPlain_of_number (s := s) fun hint => by
    rw [h] at hint
    cases hint
  simp only [ofPlain, hempty, hnull, hbool, h, Bool.or_false, Bool.false_eq_true, if_false]

theorem ofPlain_of_float {s : String} {f : Binary64} (h : floatOfText s = some f)
    (hint : intOfText s = none) (hzero : hasLeadingZero s.toList = false) : ofPlain s = float f := by
  obtain ⟨hempty, hnull, hbool⟩ := ofPlain_of_number (s := s) fun _ hnone => by
    rw [h] at hnone
    cases hnone
  simp only [ofPlain, hempty, hnull, hbool, h, hint, hzero, Bool.or_false, Bool.false_eq_true, if_false]

/-! ## Digits with and without an exponent -/

/-- The sign in front of a number. -/
def IsSign (sign : List Char) : Prop := sign = [] ∨ sign = ['+'] ∨ sign = ['-']

theorem floatOfText_sign {sign cs : List Char} {d : Char} (hsign : IsSign sign)
    (hd : isDigit d = true) : floatOfText (String.ofList (sign ++ d :: cs)) =
      (Binary64.ofUnsigned (sign = ['-']) (d :: cs)).filter Binary64.isFinite := by
  have hplus := ne_of_isDigit hd (show isDigit '+' = false from rfl)
  have hminus := ne_of_isDigit hd (show isDigit '-' = false from rfl)
  have hdot := ne_of_isDigit hd (show isDigit '.' = false from rfl)
  have hn := ne_of_isDigit hd (show isDigit 'n' = false from rfl)
  have hi := ne_of_isDigit hd (show isDigit 'i' = false from rfl)
  have hlower := toLower_of_isDigit hd
  obtain rfl | rfl | rfl := hsign
  · simp [floatOfText, Binary64.ofText, ← String.toList_inj, hplus, hminus, hdot, hlower, hn, hi]
  · simp [floatOfText, Binary64.ofText, ← String.toList_inj, hplus, hminus, hdot, hlower, hn, hi]
  · simp [floatOfText, Binary64.ofText, ← String.toList_inj, hdot, hlower, hn, hi]

/-- An exponent of zero changes nothing. -/
theorem ofUnsigned_exponent {negative : Bool} {ds : List Char} (hne : ds ≠ [])
    (hds : ∀ c ∈ ds, isDigit c = true) :
    Binary64.ofUnsigned negative (ds ++ ['e', '0']) = Binary64.ofUnsigned negative ds := by
  have hwhole : ∀ tail, EndsDigits tail →
      (ds ++ tail).takeWhile isDigit = ds ∧ (ds ++ tail).dropWhile isDigit = tail :=
    fun tail ht => ⟨takeWhile_digits hds ht, dropWhile_digits hds ht⟩
  obtain ⟨hnone, hnone'⟩ := hwhole [] endsDigits_nil
  obtain ⟨hzero, hzero'⟩ := hwhole ['e', '0'] (endsDigits_cons rfl)
  rw [List.append_nil] at hnone hnone'
  simp [Binary64.ofUnsigned, hnone, hnone', hzero, hzero', hne, natOfDigits, readDigits, digitValue,
    isDigit]

/-- Digits alone. -/
def IsWhole (ds : List Char) : Prop := ds ≠ [] ∧ ∀ c ∈ ds, isDigit c = true

theorem isWhole_of_natOfDigits {cs : List Char} {n : Nat} (h : natOfDigits 10 cs = some n) :
    IsWhole cs := by
  cases cs with
  | nil => cases h
  | cons c cs => exact ⟨List.cons_ne_nil _ _, isDigit_of_readDigits h⟩

/-- A number after a base mark is no floating-point number. -/
theorem floatOfText_base {sign cs : List Char} {n : Nat} (hsign : IsSign sign) (h : ofBase cs = some n) :
    floatOfText (String.ofList (sign ++ cs)) = none := by
  have hmark : ∃ b r, cs = '0' :: b :: r ∧ isDigit b = false ∧ b ≠ '.' ∧ b ≠ 'e' ∧ b ≠ 'E' := by
    unfold ofBase at h
    split at h
    · exact ⟨_, _, rfl, rfl, by decide⟩
    · exact ⟨_, _, rfl, rfl, by decide⟩
    · exact ⟨_, _, rfl, rfl, by decide⟩
    · cases h
  obtain ⟨b, r, rfl, hdigit, hdot, he, hE⟩ := hmark
  have hzero : ∀ c ∈ ['0'], isDigit c = true := fun c hc => List.mem_singleton.mp hc ▸ rfl
  have hwhole : ('0' :: b :: r).takeWhile isDigit = ['0'] := takeWhile_digits hzero (endsDigits_cons hdigit)
  have hrest : ('0' :: b :: r).dropWhile isDigit = b :: r := dropWhile_digits hzero (endsDigits_cons hdigit)
  rw [floatOfText_sign hsign rfl]
  simp [Binary64.ofUnsigned, hwhole, hrest, hdot, he, hE]

theorem body_of_unsigned {bound : Nat} {cs : List Char} {n : Int} (h : unsigned bound cs = some n) :
    ∃ sign digits m, IsSign sign ∧ cs = sign ++ digits ∧
      (ofBase digits = some m ∨ natOfDigits 10 digits = some m) := by
  unfold unsigned at h
  extract_lets digits read at h
  obtain ⟨m, hm, -⟩ := Option.bind_eq_some_iff.mp h
  have hread : ofBase digits = some m ∨ natOfDigits 10 digits = some m := by
    unfold read at hm
    split at hm
    · exact .inl (‹ofBase digits = some _›.trans hm)
    · exact .inr (Option.ite_none_left_eq_some.mp hm).2
  unfold digits at hread
  split at hread
  · exact ⟨['+'], _, m, .inr (.inl rfl), rfl, hread⟩
  · exact ⟨[], _, m, .inl rfl, rfl, hread⟩

theorem body_of_negative {bound : Nat} {cs : List Char} {n : Int} (h : negative bound cs = some n) :
    ∃ digits m, cs = '-' :: digits ∧ (ofBase digits = some m ∨ natOfDigits 10 digits = some m) := by
  unfold negative at h
  split at h
  · obtain ⟨m, hm, -⟩ := Option.bind_eq_some_iff.mp h
    split at hm
    · exact ⟨_, m, rfl, .inl (‹ofBase _ = some _›.trans hm)⟩
    · exact ⟨_, m, rfl, .inr (Option.ite_none_left_eq_some.mp hm).2⟩
  · cases h

/-- What is read as a whole number is a number after a base mark, or digits. -/
theorem exists_body {s : String} {n : Int} (h : intOfText s = some n) : ∃ sign cs m,
    IsSign sign ∧ s = String.ofList (sign ++ cs) ∧ (ofBase cs = some m ∨ natOfDigits 10 cs = some m) := by
  unfold intOfText at h
  obtain hu | ⟨-, hn⟩ := Option.or_eq_some_iff.mp h
  · obtain ⟨sign, digits, m, hsign, hs, hbody⟩ := body_of_unsigned hu
    exact ⟨sign, digits, m, hsign, by rw [← hs, String.ofList_toList], hbody⟩
  · obtain ⟨digits, m, hs, hbody⟩ := body_of_negative hn
    exact ⟨['-'], digits, m, .inr (.inr rfl), by rw [List.singleton_append, ← hs, String.ofList_toList],
      hbody⟩

theorem exists_digits_of_zero {cs : List Char} (h : hasLeadingZero cs = true) :
    ∃ sign ds, IsSign sign ∧ IsWhole ds ∧ cs = sign ++ ds := by
  have hwhole : ∀ {d : Char} {r : List Char}, (d :: r).all isDigit = true → IsWhole ('0' :: d :: r) :=
    fun hall => ⟨List.cons_ne_nil _ _, List.forall_mem_cons.mpr ⟨rfl, List.all_eq_true.mp hall⟩⟩
  unfold hasLeadingZero at h
  dsimp only at h
  split at h
  · rename_i hcs
    split at hcs
    · exact ⟨['+'], _, .inr (.inl rfl), hwhole h, congrArg _ hcs⟩
    · exact ⟨['-'], _, .inr (.inr rfl), hwhole h, congrArg _ hcs⟩
    · exact ⟨[], _, .inl rfl, hwhole h, hcs⟩
  · cases h

/-- A floating-point number whose text would be taken for a whole number, or for a text, is written in
digits alone. -/
theorem exists_digits {s : String} {f : Binary64} (h : floatOfText s = some f)
    (htaken : ¬ (intOfText s = none ∧ hasLeadingZero s.toList = false)) :
    ∃ sign ds, IsSign sign ∧ IsWhole ds ∧ s = String.ofList (sign ++ ds) := by
  by_cases hint : intOfText s = none
  · have hzero : hasLeadingZero s.toList = true := by simpa [hint] using htaken
    obtain ⟨sign, ds, hsign, hwhole, hs⟩ := exists_digits_of_zero hzero
    exact ⟨sign, ds, hsign, hwhole, String.toList_inj.mp (by rw [hs, String.toList_ofList])⟩
  · obtain ⟨n, hn⟩ := Option.ne_none_iff_exists'.mp hint
    obtain ⟨sign, cs, m, hsign, rfl, hbase | hdigits⟩ := exists_body hn
    · rw [floatOfText_base hsign hbase] at h
      cases h
    · exact ⟨sign, cs, hsign, isWhole_of_natOfDigits hdigits, rfl⟩

theorem exists_plain_float {s : String} {f : Binary64} (h : floatOfText s = some f) :
    ∃ t, ofPlain t = float f := by
  by_cases hplain : intOfText s = none ∧ hasLeadingZero s.toList = false
  · exact ⟨s, ofPlain_of_float h hplain.1 hplain.2⟩
  obtain ⟨sign, ds, hsign, ⟨hne, hds⟩, rfl⟩ := exists_digits h hplain
  have hfloat : floatOfText (String.ofList (sign ++ (ds ++ ['e', '0']))) = some f := by
    obtain ⟨d, ds, rfl⟩ := List.exists_cons_of_ne_nil hne
    have hd := hds d List.mem_cons_self
    rw [floatOfText_sign hsign hd] at h
    rw [List.cons_append, floatOfText_sign hsign hd, ← List.cons_append,
      ofUnsigned_exponent hne hds, h]
  -- With the exponent the text is not digits alone any more.
  have htext : ¬ ∃ sign' ds', IsSign sign' ∧ IsWhole ds' ∧
      String.ofList (sign ++ (ds ++ ['e', '0'])) = String.ofList (sign' ++ ds') := by
    rintro ⟨sign', ds', hsign', ⟨-, hds'⟩, heq⟩
    have hlist : sign ++ (ds ++ ['e', '0']) = sign' ++ ds' := by
      simpa using congrArg String.toList heq
    have he : 'e' ∈ sign' ++ ds' := by
      rw [← hlist]
      simp
    obtain he | he := List.mem_append.mp he
    · obtain rfl | rfl | rfl := hsign' <;> simp at he
    · exact absurd (hds' _ he) (by decide)
  have hnumber := not_not.mp (mt (exists_digits hfloat) htext)
  exact ⟨_, ofPlain_of_float hfloat hnumber.1 hnumber.2⟩

/-- What a scalar stands for under some tag, another stands for without one. -/
theorem exists_untagged {tag : Option Tag} {style : ScalarStyle} {s : String} {sc : Scalar}
    (h : ofTagged? tag style s = some sc) : ∃ style' t, ofTagged? none style' t = some sc := by
  cases tag with
  | none => exact ⟨style, s, h⟩
  | some tag =>
    simp only [ofTagged?] at h
    by_cases hlocal : tag.isLocal
    · simp [hlocal] at h
    rw [if_neg hlocal] at h
    by_cases hstarts : tag.startsLocal
    · rw [if_pos hstarts] at h
      exact ⟨style, s, h⟩
    rw [if_neg hstarts] at h
    split at h
    · obtain ⟨b, -, rfl⟩ := Option.map_eq_some_iff.mp h
      exact ⟨.plain, if b then "true" else "false", by cases b <;> rfl⟩
    split at h
    · obtain ⟨n, hn, rfl⟩ := Option.map_eq_some_iff.mp h
      exact ⟨.plain, s, congrArg some (ofPlain_of_int hn)⟩
    split at h
    · obtain ⟨f, hf, rfl⟩ := Option.map_eq_some_iff.mp h
      obtain ⟨t, ht⟩ := exists_plain_float hf
      exact ⟨.plain, t, congrArg some ht⟩
    split at h
    · split at h
      · exact ⟨.plain, "null", h⟩
      · cases h
    · exact ⟨.doubleQuoted, s, h⟩

end Scalar

namespace Value

theorem OfScalar.exists_shows {v : Value} (h : v.OfScalar) : ∃ n : Node, n.shows v = true := by
  obtain ⟨tag, style, s, hs⟩ := h
  obtain ⟨sc, htagged, hsc⟩ := Option.bind_eq_some_iff.mp hs
  obtain ⟨style', t, ht⟩ := Scalar.exists_untagged htagged
  have hv := scalar?_of_ofScalar? hsc
  refine ⟨.scalar none style' t, ?_⟩
  cases v with
  | sequence items | mapping entries => cases hv
  | _ => simpa [Node.shows, ht] using hv.symm

theorem exists_showsItems {vs : List Value} (h : ∀ v ∈ vs, ∃ n : Node, n.shows v = true) :
    ∃ ns, Node.showsItems ns vs = true := by
  induction vs with
  | nil => exact ⟨[], rfl⟩
  | cons v vs ih =>
    obtain ⟨n, hn⟩ := h v List.mem_cons_self
    obtain ⟨ns, hns⟩ := ih fun w hw => h w (List.mem_cons_of_mem _ hw)
    exact ⟨n :: ns, by rw [Node.showsItems, hn, hns]; rfl⟩

theorem exists_showsEntries {es : List (Value × Value)}
    (h : ∀ e ∈ es, (∃ n : Node, n.shows e.1 = true) ∧ ∃ n : Node, n.shows e.2 = true) :
    ∃ ns, Node.showsEntries ns es = true := by
  induction es with
  | nil => exact ⟨[], rfl⟩
  | cons e es ih =>
    obtain ⟨⟨k, hk⟩, n, hn⟩ := h e List.mem_cons_self
    obtain ⟨ns, hns⟩ := ih fun w hw => h w (List.mem_cons_of_mem _ hw)
    exact ⟨(k, n) :: ns, by rw [Node.showsEntries, hk, hn, hns]; rfl⟩

/-- **Every readable value is shown by some node.** -/
theorem exists_shows {d : Nat} {v : Value} (h : v.Readable d) : ∃ n : Node, n.shows v = true := by
  induction d generalizing v with
  | zero => cases v <;> exact OfScalar.exists_shows h
  | succ d ih =>
    cases v with
    | sequence items =>
      obtain ⟨ns, hns⟩ := exists_showsItems fun v hv => ih (h v hv)
      exact ⟨.sequence none ns, hns⟩
    | mapping entries =>
      obtain ⟨ns, hns⟩ := exists_showsEntries fun e he => (h.2 e he).imp ih ih
      exact ⟨.mapping none ns, hns⟩
    | _ => exact OfScalar.exists_shows h

end Value

end DeployWatch.Yaml
