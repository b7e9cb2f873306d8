import DeployWatch.Program.Together

/-!
# Interleavings of a crew

The run of a crew takes its programs in one order. Here any program that is ready may come next.

* `CrewEvent`, `Crew.happens`: what one turn brings about;
* `Crew.Reaches`: the logs and crews that some interleaving leads to; an eager one lets time pass only
  when no program is ready;
* `Crew.places`: where the programs of a crew stand, by their numbers;
* `Crew.Tidy`: no number stands in two places, and `lookup_changeQueue`, `queuedPlaces_changeQueue`: what
  the change of one queue changes;
* **`run_reaches`**: the run of a crew is one of its eager interleavings.
-/

namespace DeployWatch

/-- Something that comes about in a crew. -/
inductive CrewEvent (α : Type) where
  | asked (number : Nat) (r : Request)
  | granted (number : Nat) (key : String)
  | released (number : Nat) (key : String)
  | ended (number : Nat) (result : α)

def CrewEvent.number {α : Type} : CrewEvent α → Nat
  | asked n _ => n
  | granted n _ => n
  | released n _ => n
  | ended n _ => n

/-- Where a program of a crew stands. -/
inductive Post (α : Type) where
  | absent
  | ready (rest : Program α)
  | asleep (due : Nat) (rest : Program α)
  | queued (key : String) (rest : Program α)
  | ended (result : α)

namespace Crew

variable {σ α : Type} (s : Surroundings σ)

/-- Who gets a lock when it is given back. -/
def passesOn (c : Crew σ α) (key : String) : List (CrewEvent α) :=
  match c.held.lookup key with
  | some (first :: _) => [.granted first.number key]
  | _ => []

/-- What the next turn brings about. -/
def happens (c : Crew σ α) : List (CrewEvent α) :=
  match c.ready with
  | [] => []
  | m :: _ =>
    match m.rest with
    | .done a => [.ended m.number a]
    | .ask r _ => .asked m.number r ::
      match r with
      | .acquire key => if (c.held.lookup key).isNone then [.granted m.number key] else []
      | .release key => .released m.number key :: c.passesOn key
      | _ => []

/-- The logs and crews that some interleaving leads to from a crew. Any ready program may take the next
turn; if the interleaving is eager, time passes only when none is ready. -/
inductive Reaches (eager : Prop) (start : Crew σ α) : List (CrewEvent α) → Crew σ α → Prop
  | start : Reaches eager start [] start
  | turn {log : List (CrewEvent α)} {c : Crew σ α} {m : Member α} {others : List (Member α)} :
    Reaches eager start log c → c.ready.Perm (m :: others) →
    Reaches eager start (log ++ happens { c with ready := m :: others })
      ({ c with ready := m :: others }.turn s)
  | wake {log : List (CrewEvent α)} {c : Crew σ α} :
    Reaches eager start log c → (eager → c.ready = []) → Reaches eager start log (c.wake s)

/-- **The run of a crew is one of its eager interleavings.** -/
theorem run_reaches {eager : Prop} {start c : Crew σ α} {log : List (CrewEvent α)}
    (h : Reaches s eager start log c) (fuel : Nat) :
    ∃ log', Reaches s eager start log' (c.run s fuel) := by
  induction fuel generalizing c log with
  | zero => exact ⟨log, h⟩
  | succ fuel ih =>
    unfold run
    split
    · exact ⟨log, h⟩
    · cases hready : c.ready with
      | nil => exact ih (h.wake fun _ => hready)
      | cons m others =>
        have hturn := h.turn (List.Perm.of_eq hready)
        rw [← hready] at hturn
        exact ih hturn

/-! ## Places -/

def readyPlaces (ms : List (Member α)) : List (Nat × Post α) :=
  ms.map fun m => (m.number, .ready m.rest)

def asleepPlaces (es : List (Nat × Member α)) : List (Nat × Post α) :=
  es.map fun e => (e.2.number, .asleep e.1 e.2.rest)

def queuedPlaces (held : List (String × List (Member α))) : List (Nat × Post α) :=
  held.flatMap fun e => e.2.map fun m => (m.number, .queued e.1 m.rest)

def endedPlaces (rs : List (Nat × α)) : List (Nat × Post α) := rs.map fun r => (r.1, .ended r.2)

/-- Where the programs of a crew stand, by their numbers. -/
def places (c : Crew σ α) : List (Nat × Post α) :=
  readyPlaces c.ready ++ (asleepPlaces c.asleep ++ (queuedPlaces c.held ++ endedPlaces c.ended))

/-- No number stands in two places, no lock is listed twice, and who sleeps stands in the order of
waking. -/
structure Tidy (c : Crew σ α) : Prop where
  numbers : (c.places.map (·.1)).Nodup
  keys : (c.held.map (·.1)).Nodup
  sorted : c.asleep.Pairwise fun e e' => e.1 ≤ e'.1

/-! ### Tables of locks -/

section Held

variable {held : List (String × List (Member α))} {key : String} {queue : List (Member α)}

theorem lookup_changeQueue (change : List (Member α) → List (Member α)) (k : String) :
    (changeQueue key change held).lookup k =
      if k = key then (held.lookup k).map change else held.lookup k := by
  unfold changeQueue
  induction held with
  | nil => simp
  | cons e rest ih =>
    obtain ⟨k', q⟩ := e
    rw [List.map_cons]
    by_cases hk' : k' = key
    · rw [if_pos hk', List.lookup_cons, List.lookup_cons, ih]
      by_cases hk : k = key
      · simp [hk, hk']
      · have hne : (k == k') = false := by simpa [hk'] using hk
        simp [hk, hne]
    · rw [if_neg hk', List.lookup_cons, List.lookup_cons, ih]
      by_cases hk : k = key
      · have hne : (k == k') = false := by simpa [hk] using Ne.symm hk'
        rw [hne, if_pos hk]
      · rw [if_neg hk, if_neg hk]

theorem lookup_filter_key (k : String) :
    (held.filter fun e => e.1 ≠ key).lookup k = if k = key then none else held.lookup k := by
  induction held with
  | nil => simp
  | cons e rest ih =>
    obtain ⟨k', q⟩ := e
    by_cases hk' : k' = key
    · rw [List.filter_cons_of_neg (by simpa using hk'), ih, List.lookup_cons]
      by_cases hk : k = key
      · rw [if_pos hk, if_pos hk]
      · have hne : (k == k') = false := by simpa [hk'] using hk
        rw [if_neg hk, if_neg hk, hne]
    · rw [List.filter_cons_of_pos (by simpa using hk'), List.lookup_cons, List.lookup_cons, ih]
      by_cases hk : k = key
      · have hne : (k == k') = false := by simpa [hk] using Ne.symm hk'
        rw [hne, if_pos hk]
      · rw [if_neg hk, if_neg hk]

theorem keys_changeQueue (change : List (Member α) → List (Member α)) :
    (changeQueue key change held).map (·.1) = held.map (·.1) := by
  rw [changeQueue, List.map_map]
  refine List.map_congr_left fun e _ => ?_
  show (if e.1 = key then (e.1, change e.2) else e).1 = e.1
  split <;> rfl

theorem held_eq_append (h : held.lookup key = some queue) (hkeys : (held.map (·.1)).Nodup) :
    ∃ before after, held = before ++ (key, queue) :: after ∧ (∀ e ∈ before, e.1 ≠ key) ∧
      ∀ e ∈ after, e.1 ≠ key := by
  induction held with
  | nil => cases h
  | cons e rest ih =>
    obtain ⟨k', q⟩ := e
    rw [List.map_cons, List.nodup_cons] at hkeys
    rw [List.lookup_cons] at h
    by_cases hk : key = k'
    · subst hk
      simp only [beq_self_eq_true, Option.some.injEq] at h
      subst h
      refine ⟨[], rest, rfl, by simp, fun e he hek => hkeys.1 ?_⟩
      exact List.mem_map.mpr ⟨e, he, hek⟩
    · have hne : (key == k') = false := by simpa using hk
      rw [hne] at h
      obtain ⟨before, after, rfl, hbefore, hafter⟩ := ih h hkeys.2
      refine ⟨(k', q) :: before, after, rfl, ?_, hafter⟩
      intro e he
      rcases List.mem_cons.mp he with rfl | he
      · exact Ne.symm hk
      · exact hbefore e he

theorem changeQueue_of_ne (change : List (Member α) → List (Member α))
    (h : ∀ e ∈ held, e.1 ≠ key) : changeQueue key change held = held := by
  unfold changeQueue
  refine (List.map_congr_left fun e he => ?_).trans (List.map_id held)
  rw [if_neg (h e he)]
  rfl

/-- Changing one queue changes the places in it. -/
theorem queuedPlaces_changeQueue (change : List (Member α) → List (Member α))
    (h : held.lookup key = some queue) (hkeys : (held.map (·.1)).Nodup) :
    ∃ others : List (Nat × Post α),
      (queuedPlaces held).Perm (queue.map (fun m => (m.number, .queued key m.rest)) ++ others) ∧
      (queuedPlaces (changeQueue key change held)).Perm
        ((change queue).map (fun m => (m.number, .queued key m.rest)) ++ others) := by
  obtain ⟨before, after, rfl, hbefore, hafter⟩ := held_eq_append h hkeys
  refine ⟨queuedPlaces before ++ queuedPlaces after, ?_, ?_⟩
  · rw [queuedPlaces, List.flatMap_append, List.flatMap_cons]
    exact List.perm_append_comm_assoc _ _ _
  · have hchange : changeQueue key change (before ++ (key, queue) :: after) =
        before ++ (key, change queue) :: after := by
      rw [changeQueue, List.map_append, List.map_cons, if_pos rfl, ← changeQueue, ← changeQueue,
        changeQueue_of_ne change hbefore, changeQueue_of_ne change hafter]
    rw [hchange, queuedPlaces, List.flatMap_append, List.flatMap_cons]
    exact List.perm_append_comm_assoc _ _ _

/-- Dropping a lock that nobody waits for changes no place. -/
theorem queuedPlaces_filter (h : ∀ q, held.lookup key = some q → q = [])
    (hkeys : (held.map (·.1)).Nodup) :
    queuedPlaces (held.filter fun e => e.1 ≠ key) = queuedPlaces held := by
  cases hlookup : held.lookup key with
  | none =>
    have hne : ∀ e ∈ held, e.1 ≠ key := by
      rintro e he rfl
      have hmem := List.lookup_eq_none_iff.mp hlookup e he
      simp at hmem
    rw [List.filter_eq_self.mpr (by simpa using hne)]
  | some q =>
    obtain rfl := h q hlookup
    obtain ⟨before, after, rfl, hbefore, hafter⟩ := held_eq_append hlookup hkeys
    rw [List.filter_append, List.filter_cons_of_neg (by simp),
      List.filter_eq_self.mpr (by simpa using hbefore),
      List.filter_eq_self.mpr (by simpa using hafter)]
    simp [queuedPlaces]

end Held

end Crew

end DeployWatch
