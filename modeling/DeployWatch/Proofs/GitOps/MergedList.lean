import DeployWatch.Proofs.GitOps.OverrideText
import Mathlib.Data.List.Nodup

/-!
# Where merged parameters stand

A merge goes through the batch, and each step searches the list that the steps before it have changed.
What comes of it is told here by the list instead: entry by entry, and then what stands behind them.

* `namesOf`, `newNames`: the names of a list, and those that a batch brings to it;
* **`putAll_cons_entry`**: what a merge does to the first entry, and with which batch it goes on;
* `getElem?_putAll_eq`, `namesOf_putAll`: every old entry, and the names behind the old ones;
* `putAll_putAll`: a batch that is merged twice;
* `Merged`, **`OverrideFile.apply_merged`**: the merge of a batch into a file.
-/

namespace DeployWatch

/-- The names of parameters, in their order. -/
def namesOf (ps : List Parameter) : List String := ps.map (·.name)

/-- The names that a batch brings to a list, in the order in which they first appear in the batch. -/
def newNames (batch ps : List Parameter) : List String :=
  ((namesOf batch).filter fun name => name ∉ namesOf ps).eraseDups

/-- A batch without the parameters of a name. -/
def without (name : String) (batch : List Parameter) : List Parameter :=
  batch.filter fun p => p.name ≠ name

/-! ## Names -/

@[simp] theorem namesOf_nil : namesOf [] = [] := rfl

@[simp] theorem namesOf_cons (p : Parameter) (ps : List Parameter) :
    namesOf (p :: ps) = p.name :: namesOf ps := rfl

theorem mem_namesOf {name : String} {ps : List Parameter} :
    name ∈ namesOf ps ↔ ∃ p ∈ ps, p.name = name := List.mem_map

theorem named?_eq_none_iff {name : String} {ps : List Parameter} :
    named? name ps = none ↔ name ∉ namesOf ps := by
  rw [named?_eq_none, mem_namesOf]
  simp

theorem nodup_eraseDups : ∀ l : List String, l.eraseDups.Nodup
  | [] => List.nodup_nil
  | name :: l => by
    rw [List.eraseDups_cons]
    exact List.nodup_cons.mpr ⟨by simp, nodup_eraseDups _⟩
termination_by l => l.length
decreasing_by exact Nat.lt_succ_of_le (List.length_filter_le _ _)

theorem nodup_newNames (batch ps : List Parameter) : (newNames batch ps).Nodup := nodup_eraseDups _

theorem mem_newNames {batch ps : List Parameter} {name : String} :
    name ∈ newNames batch ps ↔ name ∈ namesOf batch ∧ name ∉ namesOf ps := by
  simp [newNames]

/-! ## The first entry -/

theorem named?_reverse_without {name name' : String} (h : name' ≠ name) (batch : List Parameter) :
    named? name' (without name batch).reverse = named? name' batch.reverse := by
  unfold named? without
  rw [← List.filter_reverse, List.find?_filter]
  congr 1
  funext p
  by_cases hp : p.name = name'
  · simp [hp, h]
  · simp [hp]

theorem named?_reverse_without_self (name : String) (batch : List Parameter) :
    named? name (without name batch).reverse = none := by
  rw [named?_eq_none]
  intro p hp
  simpa using (List.mem_filter.mp (List.mem_reverse.mp hp)).2

theorem named?_reverse_cons (name : String) (p : Parameter) (batch : List Parameter) :
    named? name (p :: batch).reverse =
      (named? name batch.reverse).or (if p.name = name then some p else none) := by
  unfold named?
  rw [List.reverse_cons, List.find?_append]
  by_cases h : p.name = name
  · simp [h]
  · simp [h]

/-- **What a merge does to the first entry**: it becomes the last parameter of its name in the batch, if
there is one, and the rest of the list is left to the parameters of other names. -/
theorem putAll_cons_entry (batch : List Parameter) (q : Parameter) (rest : List Parameter) :
    putAll batch (q :: rest) =
      (named? q.name batch.reverse).getD q :: putAll (without q.name batch) rest := by
  induction batch generalizing q rest with
  | nil => rfl
  | cons p batch ih =>
    rw [putAll_cons, putParameter, named?_reverse_cons]
    by_cases h : q.name = p.name
    · -- A later parameter of this name finds `p` where `q` was.
      have hfilter : without q.name (p :: batch) = without p.name batch := by
        rw [h]
        exact List.filter_cons_of_neg (by simp)
      rw [if_pos h, ih, if_pos h.symm, hfilter, h]
      cases named? p.name batch.reverse <;> rfl
    · have hfilter : without q.name (p :: batch) = p :: without q.name batch :=
        List.filter_cons_of_pos (by simpa using Ne.symm h)
      rw [if_neg h, ih, if_neg (Ne.symm h), hfilter, Option.or_none]
      rfl

/-! ## All entries -/

theorem named?_eq_some_name {name : String} {ps : List Parameter} {p : Parameter}
    (h : named? name ps = some p) : p.name = name := by
  simpa using List.find?_some h

theorem name_getD_named? (batch : List Parameter) (q : Parameter) :
    ((named? q.name batch).getD q).name = q.name := by
  cases h : named? q.name batch with
  | none => rfl
  | some p => exact named?_eq_some_name h

/-- An old entry stays where it is. The first of a name becomes the last parameter of that name in the
batch, and a further one of the name is left alone. -/
theorem getElem?_putAll_eq {batch ps : List Parameter} {i : Nat} {q : Parameter}
    (h : ps[i]? = some q) : (putAll batch ps)[i]? =
      some (if q.name ∈ namesOf (ps.take i) then q else (named? q.name batch.reverse).getD q) := by
  induction ps generalizing batch i with
  | nil => cases h
  | cons q' rest ih =>
    rw [putAll_cons_entry]
    cases i with
    | zero =>
      cases h
      rfl
    | succ i =>
      rw [List.getElem?_cons_succ, ih h, List.take_succ_cons, namesOf_cons]
      by_cases hmem : q.name ∈ namesOf (rest.take i)
      · rw [if_pos hmem, if_pos (List.mem_cons_of_mem _ hmem)]
      · rw [if_neg hmem]
        by_cases hname : q.name = q'.name
        · rw [if_pos (hname ▸ List.mem_cons_self), hname, named?_reverse_without_self]
          rfl
        · rw [if_neg (by simp [hname, hmem]), named?_reverse_without hname]

theorem namesOf_putParameter (p : Parameter) (ps : List Parameter) : namesOf (putParameter p ps) =
    if p.name ∈ namesOf ps then namesOf ps else namesOf ps ++ [p.name] := by
  induction ps with
  | nil => rfl
  | cons q rest ih =>
    unfold putParameter
    by_cases h : q.name = p.name
    · rw [if_pos h, namesOf_cons, namesOf_cons, h, if_pos List.mem_cons_self]
    · rw [if_neg h, namesOf_cons, namesOf_cons, ih]
      by_cases hmem : p.name ∈ namesOf rest
      · rw [if_pos hmem, if_pos (List.mem_cons_of_mem _ hmem)]
      · rw [if_neg hmem, if_neg (by simp [Ne.symm h, hmem])]
        rfl

/-- Behind the old names stand those that the batch brings, each once. -/
theorem namesOf_putAll (batch ps : List Parameter) :
    namesOf (putAll batch ps) = namesOf ps ++ newNames batch ps := by
  induction batch generalizing ps with
  | nil => simp [newNames]
  | cons p batch ih =>
    rw [putAll_cons, ih]
    unfold newNames
    rw [namesOf_putParameter, namesOf_cons]
    by_cases hmem : p.name ∈ namesOf ps
    · rw [if_pos hmem, List.filter_cons_of_neg (by simpa using hmem)]
    · rw [if_neg hmem, List.filter_cons_of_pos (by simpa using hmem), List.eraseDups_cons,
        List.filter_filter, List.append_assoc]
      have hboth : ∀ name, decide (name ∉ namesOf ps ++ [p.name]) =
          (!name == p.name && decide (name ∉ namesOf ps)) := by
        intro name
        by_cases hname : name = p.name <;> simp [hname]
      simp only [hboth]
      rfl

theorem nodup_namesOf_putAll {batch ps : List Parameter} (h : (namesOf ps).Nodup) :
    (namesOf (putAll batch ps)).Nodup := by
  rw [namesOf_putAll]
  refine List.Nodup.append h (nodup_newNames batch ps) fun name hname hnew => ?_
  exact (mem_newNames.mp hnew).2 hname

/-! ## A batch that is merged twice -/

/-- A second merge finds the first entry as the first merge has left it. -/
theorem putAll_putAll_entry {batch : List Parameter} {q : Parameter} {rest : List Parameter}
    (h : putAll (without q.name batch) (putAll (without q.name batch) rest) =
      putAll (without q.name batch) rest) :
    putAll batch (putAll batch (q :: rest)) = putAll batch (q :: rest) := by
  rw [putAll_cons_entry, putAll_cons_entry, name_getD_named?, h]
  cases named? q.name batch.reverse <;> rfl

/-- A batch that has been merged into a list leaves it as it is when it is merged again, even if its own
parameters replace one another on the way. -/
theorem putAll_putAll : ∀ batch ps : List Parameter,
    putAll batch (putAll batch ps) = putAll batch ps
  | batch, q :: rest => putAll_putAll_entry (putAll_putAll (without q.name batch) rest)
  | [], [] => rfl
  | p :: batch, [] => by
    -- The list might as well have started with `p`.
    have hstart : putAll (p :: batch) [] = putAll (p :: batch) [p] := by
      rw [putAll_cons, putAll_cons, putParameter, putParameter, if_pos rfl]
    rw [hstart]
    exact putAll_putAll_entry (putAll_putAll (without p.name (p :: batch)) [])
termination_by batch ps => batch.length + ps.length
decreasing_by
  · exact Nat.add_lt_add_of_le_of_lt (List.length_filter_le _ _) (Nat.lt_succ_self _)
  · refine Nat.add_lt_add_right ?_ _
    rw [without, List.filter_cons_of_neg (by simp)]
    exact Nat.lt_succ_of_le (List.length_filter_le _ _)

/-! ## Files -/

/-- What the merge of a batch makes of a list. -/
structure Merged (batch ps ps' : List Parameter) : Prop where
  /-- The first entry of a name of the batch is the last parameter of that name in the batch. -/
  counts : ∀ name ∈ namesOf batch, ∃ p, named? name batch.reverse = some p ∧ named? name ps' = some p
  /-- An old entry keeps its place. It is changed only if it is the first of a name of the batch. -/
  placed : ∀ (i : Nat) (q : Parameter), ps[i]? = some q → ps'[i]? =
    some (if q.name ∈ namesOf (ps.take i) then q else (named? q.name batch.reverse).getD q)
  kept : ∀ (i : Nat) (q : Parameter), ps[i]? = some q → q.name ∉ namesOf batch → ps'[i]? = some q
  /-- Behind the old entries stand the new names, in the order of their first appearance. -/
  ordered : namesOf ps' = namesOf ps ++ newNames batch ps
  once : (newNames batch ps).Nodup
  unique : (namesOf ps).Nodup → (namesOf ps').Nodup

theorem putAll_merged (batch ps : List Parameter) : Merged batch ps (putAll batch ps) where
  counts name hname := by
    cases hlast : named? name batch.reverse with
    | none =>
      have hnone := named?_eq_none_iff.mp hlast
      rw [namesOf, List.map_reverse, List.mem_reverse] at hnone
      exact absurd hname hnone
    | some p =>
      refine ⟨p, rfl, ?_⟩
      rw [named?_putAll, hlast]
      rfl
  placed i q h := getElem?_putAll_eq h
  kept i q h hq := getElem?_putAll h fun p hp hname => hq (mem_namesOf.mpr ⟨p, hp, hname⟩)
  ordered := namesOf_putAll batch ps
  once := nodup_newNames batch ps
  unique := nodup_namesOf_putAll

/-- **The merge of a batch into a file.** The file's list of parameters becomes the merged one, whatever
names are repeated in the list or in the batch, and nothing else in the file changes. The same batch
changes nothing any more when it is merged again. Batches without common names leave the same parameter
for every name, in whichever order they are merged. -/
theorem OverrideFile.apply_merged (f : OverrideFile) (batch : List Parameter) :
    Merged batch f.parameters (f.apply batch).1.parameters ∧
      (f.apply batch).1.helmExtra = f.helmExtra ∧ (f.apply batch).1.extra = f.extra ∧
      ((f.apply batch).1.apply batch).1.parameters = (f.apply batch).1.parameters ∧
      ∀ batch', DisjointNames batch batch' → ∀ name,
        named? name ((f.apply batch).1.apply batch').1.parameters =
          named? name ((f.apply batch').1.apply batch).1.parameters := by
  simp only [OverrideFile.apply_eq, true_and]
  refine ⟨putAll_merged batch f.parameters, putAll_putAll batch f.parameters, ?_⟩
  exact fun batch' h name => named?_putAll_comm h name f.parameters

/-- A file with two parameters of one name. -/
def twiceFile : OverrideFile :=
  { parameters := [⟨"web", "v0", true⟩, ⟨"replicas", "3", false⟩, ⟨"web", "old", false⟩] }

def twiceBatch : List Parameter := [⟨"api", "v1", true⟩, ⟨"web", "v1", true⟩, ⟨"api", "v2", true⟩]

/-- A batch with two parameters of a new name brings the name once, changes the first entry of the other
name, and is merged in any order with a batch for the number of replicas. -/
theorem OverrideFile.apply_merged_twice :
    namesOf (twiceFile.apply twiceBatch).1.parameters = ["web", "replicas", "web", "api"] ∧
      (twiceFile.apply twiceBatch).1.parameters[0]? = some ⟨"web", "v1", true⟩ ∧
      (twiceFile.apply twiceBatch).1.parameters[2]? = some ⟨"web", "old", false⟩ ∧
      named? "api" ((twiceFile.apply twiceBatch).1.apply [⟨"replicas", "5", false⟩]).1.parameters =
        named? "api" ((twiceFile.apply [⟨"replicas", "5", false⟩]).1.apply twiceBatch).1.parameters := by
  obtain ⟨hmerged, -, -, -, hdisjoint⟩ := apply_merged twiceFile twiceBatch
  exact ⟨hmerged.ordered.trans (by decide), hmerged.placed 0 _ rfl, hmerged.placed 2 _ rfl,
    hdisjoint _ (by unfold DisjointNames; decide) "api"⟩

end DeployWatch
