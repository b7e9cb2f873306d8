import DeployWatch.Text.Split

/-!
# Laws of cutting

* `splitAt_append_mark`: a text cut at one of its marks;
* `splitAt_append_left`, `splitAt_append_right`: text without marks around a text belongs to its first
  and to its last part;
* `splitAt_intercalate`, `notMem_of_mem_splitAt`: parts without marks are those of the text that has a mark
  between any two of them, and all parts are such.
-/

namespace DeployWatch.Text

variable {mark : Char}

theorem splitAt_ne_nil (cs : List Char) : splitAt mark cs ≠ [] := by
  cases cs with
  | nil => exact List.cons_ne_nil _ _
  | cons c rest =>
    unfold splitAt
    split
    · exact List.cons_ne_nil _ _
    · split <;> exact List.cons_ne_nil _ _

theorem splitAt_cons_mark (cs : List Char) : splitAt mark (mark :: cs) = [] :: splitAt mark cs :=
  if_pos rfl

theorem splitAt_cons_of_ne {c : Char} (hc : c ≠ mark) (cs : List Char) : splitAt mark (c :: cs) =
    (c :: (splitAt mark cs).headD []) :: (splitAt mark cs).tail := by
  rw [splitAt, if_neg hc]
  cases splitAt mark cs <;> rfl

/-- A text is cut at each of its marks. -/
theorem splitAt_append_mark (cs rest : List Char) :
    splitAt mark (cs ++ mark :: rest) = splitAt mark cs ++ splitAt mark rest := by
  induction cs with
  | nil => exact splitAt_cons_mark rest
  | cons c cs ih =>
    rw [List.cons_append]
    by_cases hc : c = mark
    · rw [hc, splitAt_cons_mark, splitAt_cons_mark, ih]
      rfl
    · rw [splitAt_cons_of_ne hc, splitAt_cons_of_ne hc, ih]
      cases hcs : splitAt mark cs with
      | nil => exact absurd hcs (splitAt_ne_nil cs)
      | cons first more => rfl

/-- Text without marks before a text belongs to the first part. -/
theorem splitAt_append_left {front : List Char} (hfront : mark ∉ front) (cs : List Char) :
    splitAt mark (front ++ cs) =
      (front ++ (splitAt mark cs).headD []) :: (splitAt mark cs).tail := by
  induction front with
  | nil =>
    cases hcs : splitAt mark cs with
    | nil => exact absurd hcs (splitAt_ne_nil cs)
    | cons first more => simpa using hcs
  | cons c front ih =>
    rw [List.mem_cons, not_or] at hfront
    rw [List.cons_append, splitAt_cons_of_ne (Ne.symm hfront.1), ih hfront.2]
    rfl

/-- Text without marks behind a text belongs to the last part. -/
theorem splitAt_append_right {back : List Char} (hback : mark ∉ back) (cs : List Char) :
    splitAt mark (cs ++ back) =
      (splitAt mark cs).dropLast ++ [(splitAt mark cs).getLastD [] ++ back] := by
  induction cs with
  | nil =>
    have hsplit := splitAt_append_left hback []
    rwa [List.append_nil, show splitAt mark [] = [[]] from rfl, List.headD_cons, List.append_nil]
      at hsplit
  | cons c cs ih =>
    rw [List.cons_append]
    cases hcs : splitAt mark cs with
    | nil => exact absurd hcs (splitAt_ne_nil cs)
    | cons first more =>
      rw [hcs] at ih
      by_cases hc : c = mark
      · rw [hc, splitAt_cons_mark, splitAt_cons_mark, ih, hcs]
        rfl
      · rw [splitAt_cons_of_ne hc, splitAt_cons_of_ne hc, ih, hcs]
        cases more <;> rfl

/-- Text without marks is its only part. -/
theorem splitAt_of_notMem {cs : List Char} (h : mark ∉ cs) : splitAt mark cs = [cs] := by
  have hsplit := splitAt_append_left h []
  rwa [List.append_nil, show splitAt mark [] = [[]] from rfl, List.headD_cons, List.append_nil] at hsplit

/-- Parts with a mark between any two of them are cut apart again. -/
theorem splitAt_intercalate {parts : List (List Char)} (hne : parts ≠ [])
    (h : ∀ part ∈ parts, mark ∉ part) : splitAt mark ([mark].intercalate parts) = parts := by
  induction parts with
  | nil => exact absurd rfl hne
  | cons part parts ih =>
    have hpart := h part List.mem_cons_self
    cases parts with
    | nil => rw [List.intercalate_singleton, splitAt_of_notMem hpart]
    | cons next parts =>
      rw [List.intercalate_cons_cons, List.append_assoc, List.singleton_append, splitAt_append_mark,
        splitAt_of_notMem hpart, ih (List.cons_ne_nil _ _) fun p hp => h p (List.mem_cons_of_mem _ hp)]
      rfl

theorem notMem_of_mem_splitAt {part cs : List Char} (h : part ∈ splitAt mark cs) : mark ∉ part := by
  induction cs generalizing part with
  | nil =>
    obtain rfl := List.mem_singleton.mp h
    exact List.not_mem_nil
  | cons c cs ih =>
    by_cases hc : c = mark
    · rw [hc, splitAt_cons_mark] at h
      rcases List.mem_cons.mp h with rfl | h
      · exact List.not_mem_nil
      · exact ih h
    · rw [splitAt_cons_of_ne hc] at h
      cases hcs : splitAt mark cs with
      | nil => exact absurd hcs (splitAt_ne_nil cs)
      | cons first more =>
        rw [hcs] at h ih
        rcases List.mem_cons.mp h with rfl | h
        · rw [List.mem_cons, not_or]
          exact ⟨Ne.symm hc, ih List.mem_cons_self⟩
        · exact ih (List.mem_cons_of_mem _ h)

end DeployWatch.Text
