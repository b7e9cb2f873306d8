import DeployWatch.Proofs.Lock.Stages

/-!
# The timetable of a lock

Sections that share a lock run one after the other. When each of them starts follows from the order in
which they get the lock.

* `freeAgain`: when a lock is free again after some sections;
* `predecessors`, `startOf`: who has had a lock before, and when a section can start then;
* `keysAsked`: the keys that were ever asked for, and `keys_noteKey`: the table that notes them.
-/

namespace DeployWatch

open Crew (holders)
open Simulation (World)

/-! ## When a lock is free again -/

/-- When a lock is free again that sections have had one after the other, each as soon as it has arrived
and the lock was free. -/
def freeAgain (order : List Section) : Nat :=
  order.foldl (fun free s => max s.arrival free + s.hold) 0

theorem freeAgain_append (order : List Section) (s : Section) :
    freeAgain (order ++ [s]) = max s.arrival (freeAgain order) + s.hold := by
  unfold freeAgain
  rw [List.foldl_append]
  rfl

variable (sections : List Section)

def sectionsAt (order : List Nat) : List Section := order.filterMap fun i => sections[i]?

variable {sections} in
theorem sectionsAt_append {i : Nat} {s : Section} (hs : sections[i]? = some s) (order : List Nat) :
    sectionsAt sections (order ++ [i]) = sectionsAt sections order ++ [s] := by
  unfold sectionsAt
  rw [List.filterMap_append, List.filterMap_cons, hs]
  rfl

/-! ## Predecessors -/

/-- Who has had a lock before a certain program. -/
def predecessors (key : String) (i : Nat) (log : List (CrewEvent SectionRun)) : List Nat :=
  (holders key log).takeWhile fun j => j ≠ i

/-- When a section can start that comes after its predecessors. -/
def startOf (s : Section) (i : Nat) (log : List (CrewEvent SectionRun)) : Nat :=
  max s.arrival (freeAgain (sectionsAt sections (predecessors s.key i log)))

section Predecessors

variable {key : String} {i : Nat} {log events : List (CrewEvent SectionRun)}

theorem predecessors_eq {before after : List Nat} (h : holders key log = before ++ i :: after)
    (hi : i ∉ before) : predecessors key i log = before := by
  unfold predecessors
  rw [h, List.takeWhile_append_of_pos]
  · simp
  · intro j hj
    have hji : j ≠ i := fun hji => hi (hji ▸ hj)
    simpa using hji

theorem predecessors_append (h : i ∈ holders key log) :
    predecessors key i (log ++ events) = predecessors key i log := by
  obtain ⟨before, after, hsplit, hi⟩ := List.eq_append_cons_of_mem h
  have hsplit' : holders key (log ++ events) = before ++ i :: (after ++ holders key events) := by
    rw [Crew.holders_append, hsplit, List.append_assoc, List.cons_append]
  rw [predecessors_eq hsplit hi, predecessors_eq hsplit' hi]

theorem startOf_append {s : Section} (h : i ∈ holders s.key log) :
    startOf sections s i (log ++ events) = startOf sections s i log := by
  unfold startOf
  rw [predecessors_append h]

end Predecessors

/-! ## Keys -/

/-- The keys of all locks that were ever asked for. -/
def keysAsked (log : List (CrewEvent SectionRun)) : List String :=
  log.filterMap fun
    | .asked _ (.acquire key) => some key
    | _ => none

theorem keysAsked_append (log events : List (CrewEvent SectionRun)) :
    keysAsked (log ++ events) = keysAsked log ++ keysAsked events := List.filterMap_append

/-- The table lists every key once. -/
theorem keys_noteKey {w : World} {ks : List String} (h : w.keys = ks.eraseDups) (key : String) :
    (w.noteKey key).keys = (ks ++ [key]).eraseDups ∧ (w.noteKey key).time = w.time := by
  unfold World.noteKey
  rw [List.eraseDups_append, h]
  by_cases hk : key ∈ ks
  · have hmem : ks.eraseDups.contains key = true := by simpa using hk
    rw [if_pos hmem, h]
    simp [List.removeAll, hk]
  · have hmem : ¬ ks.eraseDups.contains key = true := by simpa using hk
    rw [if_neg hmem]
    simp [List.removeAll, hk, List.eraseDups_cons]

end DeployWatch
