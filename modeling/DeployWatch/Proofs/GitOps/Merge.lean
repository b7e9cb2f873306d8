import DeployWatch.GitOps.Override

/-!
# Merging parameters

* `named?`, `putAll`: the parameter of a name that counts, and the merge without its flag;
* `putAll_of_unchanged`: a merge that reports no change makes none;
* **`named?_putAll`**: the last one of a batch counts, and other names keep what they had;
* `Consistent`, **`mergeParameters_snd_iff`**: when a merge reports a change;
* **`named?_putAll_of_perm`**: batches without common names can be merged in any order.
-/

namespace DeployWatch

/-- The first parameter of a name, which is the one that counts. -/
def named? (name : String) (ps : List Parameter) : Option Parameter := ps.find? fun p => p.name = name

/-- Puts parameters into a list one after the other. -/
def putAll (batch ps : List Parameter) : List Parameter :=
  batch.foldl (fun ps p => putParameter p ps) ps

theorem named?_eq_none {name : String} {ps : List Parameter} :
    named? name ps = none ↔ ∀ p ∈ ps, p.name ≠ name := by
  simp [named?]

/-! ## One parameter -/

theorem putParameter_of_unchanged {p : Parameter} {ps : List Parameter}
    (h : changesParameters p ps = false) : putParameter p ps = ps := by
  induction ps with
  | nil => exact absurd h (by simp [changesParameters])
  | cons q rest ih =>
    unfold changesParameters at h
    unfold putParameter
    by_cases hq : q.name = p.name
    · rw [List.find?_cons_of_pos (by simpa using hq)] at h
      rw [if_pos hq, show q = p by simpa using h]
    · rw [List.find?_cons_of_neg (by simpa using hq)] at h
      rw [if_neg hq, ih h]

theorem named?_putParameter (name : String) (p : Parameter) (ps : List Parameter) :
    named? name (putParameter p ps) = if p.name = name then some p else named? name ps := by
  unfold named?
  induction ps with
  | nil =>
    by_cases h : p.name = name
    · simp [putParameter, h]
    · simp [putParameter, h]
  | cons q rest ih =>
    unfold putParameter
    by_cases hq : q.name = p.name
    · rw [if_pos hq]
      by_cases h : p.name = name
      · rw [if_pos h, List.find?_cons_of_pos (by simpa using h)]
      · rw [if_neg h, List.find?_cons_of_neg (by simpa using h),
          List.find?_cons_of_neg (by simpa [hq] using h)]
    · rw [if_neg hq]
      by_cases h : q.name = name
      · have hp : p.name ≠ name := fun hp => hq (h.trans hp.symm)
        rw [if_neg hp, List.find?_cons_of_pos (by simpa using h),
          List.find?_cons_of_pos (by simpa using h)]
      · rw [List.find?_cons_of_neg (by simpa using h), ih,
          List.find?_cons_of_neg (by simpa using h)]

/-- A parameter of another name stays in its place. -/
theorem getElem?_putParameter {p q : Parameter} {ps : List Parameter} {i : Nat} (h : ps[i]? = some q)
    (hq : q.name ≠ p.name) : (putParameter p ps)[i]? = some q := by
  induction ps generalizing i with
  | nil => cases h
  | cons a rest ih =>
    unfold putParameter
    split
    · rename_i ha
      cases i with
      | zero =>
        cases h
        exact absurd ha hq
      | succ i => exact h
    · cases i with
      | zero => exact h
      | succ i => exact ih h

/-! ## Batches -/

@[simp] theorem putAll_nil (ps : List Parameter) : putAll [] ps = ps := rfl

@[simp] theorem putAll_cons (p : Parameter) (batch ps : List Parameter) :
    putAll (p :: batch) ps = putAll batch (putParameter p ps) := rfl

theorem putAll_append (b b' ps : List Parameter) : putAll (b ++ b') ps = putAll b' (putAll b ps) :=
  List.foldl_append

theorem getElem?_putAll {batch ps : List Parameter} {q : Parameter} {i : Nat} (h : ps[i]? = some q)
    (hq : ∀ p ∈ batch, p.name ≠ q.name) : (putAll batch ps)[i]? = some q := by
  induction batch generalizing ps with
  | nil => exact h
  | cons p batch ih =>
    refine ih (getElem?_putParameter h (hq p List.mem_cons_self).symm) fun p' hp' => ?_
    exact hq p' (List.mem_cons_of_mem _ hp')

/-- The merge from a flag that may be set already. -/
theorem mergeParameters_foldl (batch ps : List Parameter) (flag : Bool) :
    batch.foldl (fun (s : List Parameter × Bool) p =>
        (putParameter p s.1, s.2 || changesParameters p s.1)) (ps, flag) =
      (putAll batch ps, flag || (mergeParameters batch ps).2) := by
  induction batch generalizing ps flag with
  | nil => simp [mergeParameters]
  | cons p batch ih =>
    have hcons : (mergeParameters (p :: batch) ps).2 =
        (changesParameters p ps || (mergeParameters batch (putParameter p ps)).2) := by
      unfold mergeParameters
      rw [List.foldl_cons, ih]
      simp only [Bool.false_or]
      rfl
    rw [List.foldl_cons, ih, hcons, Bool.or_assoc]
    rfl

theorem mergeParameters_fst (batch ps : List Parameter) :
    (mergeParameters batch ps).1 = putAll batch ps :=
  congrArg Prod.fst (mergeParameters_foldl batch ps false)

theorem mergeParameters_cons_snd (p : Parameter) (batch ps : List Parameter) :
    (mergeParameters (p :: batch) ps).2 =
      (changesParameters p ps || (mergeParameters batch (putParameter p ps)).2) := by
  unfold mergeParameters
  rw [List.foldl_cons]
  exact congrArg Prod.snd (mergeParameters_foldl _ _ _)

/-- A merge that reports no change makes none. -/
theorem putAll_of_unchanged {batch ps : List Parameter} (h : (mergeParameters batch ps).2 = false) :
    putAll batch ps = ps := by
  induction batch with
  | nil => rfl
  | cons p batch ih =>
    rw [mergeParameters_cons_snd, Bool.or_eq_false_iff] at h
    have hput := putParameter_of_unchanged h.1
    rw [hput] at h
    rw [putAll_cons, hput, ih h.2]

theorem mergeParameters_nil_snd {batch : List Parameter} (h : batch ≠ []) :
    (mergeParameters batch []).2 = true := by
  cases batch with
  | nil => exact absurd rfl h
  | cons p batch =>
    rw [mergeParameters_cons_snd]
    rfl

/-- **The last one of a batch counts**, and other names keep what they had. -/
theorem named?_putAll (name : String) (batch ps : List Parameter) :
    named? name (putAll batch ps) = (named? name batch.reverse).or (named? name ps) := by
  induction batch generalizing ps with
  | nil => rfl
  | cons p batch ih =>
    have hlast : named? name (batch.reverse ++ [p]) =
        (named? name batch.reverse).or (if p.name = name then some p else none) := by
      unfold named?
      rw [List.find?_append]
      by_cases h : p.name = name
      · simp [h]
      · simp [h]
    rw [putAll_cons, ih, List.reverse_cons, hlast, Option.or_assoc, named?_putParameter]
    congr 1
    split <;> rfl

/-! ## The report of a change -/

/-- Parameters of one name are the same. -/
def Consistent (batch : List Parameter) : Prop :=
  ∀ p ∈ batch, ∀ q ∈ batch, p.name = q.name → p = q

theorem changesParameters_eq_false {p : Parameter} {ps : List Parameter} :
    changesParameters p ps = false ↔ named? p.name ps = some p := by
  unfold changesParameters named?
  cases ps.find? fun q => q.name = p.name <;> simp

/-- A merge reports no change exactly if all its parameters count already. -/
theorem mergeParameters_snd_eq_false {batch ps : List Parameter} :
    (mergeParameters batch ps).2 = false ↔ ∀ p ∈ batch, named? p.name ps = some p := by
  induction batch with
  | nil => simp [mergeParameters]
  | cons p batch ih =>
    rw [mergeParameters_cons_snd, Bool.or_eq_false_iff, List.forall_mem_cons,
      changesParameters_eq_false]
    refine and_congr_right fun hp => ?_
    rw [putParameter_of_unchanged (changesParameters_eq_false.mpr hp)]
    exact ih

theorem Consistent.named?_putAll {batch : List Parameter} (h : Consistent batch) {p : Parameter}
    (hp : p ∈ batch) (ps : List Parameter) : named? p.name (putAll batch ps) = some p := by
  rw [DeployWatch.named?_putAll]
  cases hlast : named? p.name batch.reverse with
  | none => exact absurd rfl (named?_eq_none.mp hlast p (List.mem_reverse.mpr hp))
  | some q =>
    have hq : q ∈ batch := List.mem_reverse.mp (List.mem_of_find?_eq_some hlast)
    have hname : q.name = p.name := by simpa using List.find?_some hlast
    rw [h q hq p hp hname]
    rfl

/-- A consistent batch finds itself in the list that it was merged into. -/
theorem Consistent.merge_again {batch : List Parameter} (h : Consistent batch)
    (ps : List Parameter) : (mergeParameters batch (putAll batch ps)).2 = false :=
  mergeParameters_snd_eq_false.mpr fun _ hp => h.named?_putAll hp ps

theorem consistent_of_unchanged {batch ps : List Parameter}
    (h : (mergeParameters batch ps).2 = false) : Consistent batch := by
  rw [mergeParameters_snd_eq_false] at h
  intro p hp q hq hname
  exact Option.some.inj ((h p hp).symm.trans (hname ▸ h q hq))

/-- **A merge reports a change exactly if the list is another one, or if the batch holds different
parameters of one name.** -/
theorem mergeParameters_snd_iff {batch ps : List Parameter} :
    (mergeParameters batch ps).2 = true ↔ putAll batch ps ≠ ps ∨ ¬ Consistent batch := by
  constructor
  · intro hflag
    by_cases hconsistent : Consistent batch
    · refine .inl fun hlist => ?_
      have hagain := hconsistent.merge_again ps
      rw [hlist, hflag] at hagain
      cases hagain
    · exact .inr hconsistent
  · intro h
    cases hflag : (mergeParameters batch ps).2 with
    | true => rfl
    | false =>
      rcases h with hlist | hconsistent
      · exact absurd (putAll_of_unchanged hflag) hlist
      · exact absurd (consistent_of_unchanged hflag) hconsistent

/-! ## Batches without common names -/

/-- No parameter of one batch has the name of one of the other. -/
def DisjointNames (b b' : List Parameter) : Prop := ∀ p ∈ b, ∀ q ∈ b', p.name ≠ q.name

theorem DisjointNames.symm {b b' : List Parameter} (h : DisjointNames b b') : DisjointNames b' b :=
  fun p hp q hq => (h q hq p hp).symm

theorem named?_putAll_comm {b b' : List Parameter} (h : DisjointNames b b') (name : String)
    (ps : List Parameter) :
    named? name (putAll b' (putAll b ps)) = named? name (putAll b (putAll b' ps)) := by
  simp only [named?_putAll]
  cases hb : named? name b.reverse with
  | none => simp
  | some p =>
    have hp : p ∈ b := by simpa using List.mem_of_find?_eq_some hb
    have hname : p.name = name := by simpa using List.find?_some hb
    have hb' : named? name b'.reverse = none :=
      named?_eq_none.mpr fun q hq => hname ▸ (h p hp q (by simpa using hq)).symm
    simp [hb']

/-- **Batches without common names can be merged in any order.** -/
theorem named?_putAll_of_perm {bs bs' : List (List Parameter)} (hperm : bs.Perm bs')
    (h : bs.Pairwise DisjointNames) (name : String) (ps : List Parameter) :
    named? name (putAll bs.flatten ps) = named? name (putAll bs'.flatten ps) := by
  induction hperm generalizing ps with
  | nil => rfl
  | cons b _ ih =>
    rw [List.flatten_cons, List.flatten_cons, putAll_append, putAll_append]
    exact ih (List.pairwise_cons.mp h).2 _
  | swap b b' bs =>
    have hb : DisjointNames b' b := (List.pairwise_cons.mp h).1 b List.mem_cons_self
    simp only [List.flatten_cons, putAll_append]
    rw [named?_putAll name bs.flatten, named?_putAll name bs.flatten, named?_putAll_comm hb]
  | trans hperm _ ih ih' =>
    exact (ih h ps).trans (ih' (hperm.pairwise h fun hb => hb.symm) ps)

end DeployWatch
