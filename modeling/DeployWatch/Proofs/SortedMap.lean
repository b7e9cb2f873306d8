import DeployWatch.SortedMap
import Mathlib.Data.List.Sort

/-!
# Maps told by their look-ups

* `SortedMap.ext_find?`: maps that answer every look-up alike are equal;
* `SortedMap.union`, `SortedMap.find?_union`: the entries of two maps, those of the second winning;
* `SortedMap.ofList_append`, `SortedMap.ofList_of_perm`: maps of lists of entries.
-/

namespace DeployWatch.SortedMap

variable {β : Type}

theorem ext_find? {a b : SortedMap β} (h : ∀ k, a.find? k = b.find? k) : a = b := by
  refine ext (a.increasing.eq_of_mem_iff b.increasing fun e => ?_)
  rw [← find?_eq_some_iff, ← find?_eq_some_iff, h]

/-- The map of a list without two entries of one key has just these entries. -/
theorem find?_ofList_eq_some_iff {es : List (String × β)} (hes : es.Pairwise fun a b => a.1 ≠ b.1)
    {k : String} {v : β} : (ofList es).find? k = some v ↔ (k, v) ∈ es := by
  have hreverse : es.reverse.Pairwise fun a b => a.1 ≠ b.1 :=
    List.pairwise_reverse.mpr (hes.imp Ne.symm)
  rw [find?_ofList, find?_map_eq_some_iff hreverse, List.mem_reverse]

theorem ofList_of_perm {es : List (String × β)} {m : SortedMap β} (h : es.Perm m.entries) :
    ofList es = m := by
  have hes : es.Pairwise fun a b => a.1 ≠ b.1 := h.symm.pairwise m.distinct fun h => h.symm
  refine ext_find? fun k => Option.ext fun v => ?_
  rw [find?_ofList_eq_some_iff hes, find?_eq_some_iff, h.mem_iff]

theorem ofList_entries (m : SortedMap β) : ofList m.entries = m := ofList_of_perm (.refl _)

/-- The entries of two maps; of two entries of one key that of the second stands. -/
def union (a b : SortedMap β) : SortedMap β := ofList (a.entries ++ b.entries)

theorem find?_ofList_append (es es' : List (String × β)) (k : String) :
    (ofList (es ++ es')).find? k = ((ofList es').find? k).or ((ofList es).find? k) := by
  rw [find?_ofList, find?_ofList, find?_ofList, List.reverse_append, List.find?_append, Option.map_or]

/-- What the second map has stands, and what only the first has. -/
theorem find?_union (a b : SortedMap β) (k : String) :
    (a.union b).find? k = (b.find? k).or (a.find? k) := by
  rw [union, find?_ofList_append, ofList_entries, ofList_entries]

theorem ofList_append (es es' : List (String × β)) :
    ofList (es ++ es') = (ofList es).union (ofList es') :=
  ext_find? fun k => by rw [find?_union, find?_ofList_append]

theorem union_empty (a : SortedMap β) : a.union .empty = a :=
  ext_find? fun k => by rw [find?_union]; rfl

theorem empty_union (a : SortedMap β) : SortedMap.empty.union a = a :=
  ext_find? fun k => by rw [find?_union]; exact Option.or_none

end DeployWatch.SortedMap
