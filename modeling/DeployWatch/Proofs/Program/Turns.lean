import DeployWatch.Proofs.Program.Floor

/-!
# Turns on the floor

* `Tidy.turn`, `Tidy.wake`: the turns of a crew and its waking are steps of its floor;
* **`Reaches.invariant`**: what all steps of floors keep holds in every interleaving.
-/

namespace DeployWatch.Crew

variable {σ α : Type}

/-! ## Turns -/

/-- A step to what a crew shows is a step to its floor. -/
theorem Tidy.step_of_posts {c c' : Crew σ α} {s : Surroundings σ} {eager : Prop}
    {events : List (CrewEvent α)} {F : Floor σ α} (hstep : c.floor.Step s eager events F)
    (hnumbers : (c'.places.map (·.1)).Nodup) (hkeys : (c'.held.map (·.1)).Nodup)
    (hsorted : c'.asleep.Pairwise fun e e' => e.1 ≤ e'.1) (hstate : c'.state = F.state)
    (hposts : postIn c'.places = F.post)
    (hqueue : ∀ k, (c'.held.lookup k).map (·.map Member.number) = F.queue k) :
    c'.Tidy ∧ c.floor.Step s eager events c'.floor := by
  have hfloor : c'.floor = F := Floor.ext hstate hposts (funext hqueue)
  rw [hfloor]
  exact ⟨⟨hnumbers, hkeys, hsorted⟩, hstep⟩

/-- A step in which one program moves. -/
theorem Tidy.step_of_moved {c c' : Crew σ α} (h : c.Tidy) {n : Nat} {p : Post α} (p' : Post α)
    {others : List (Nat × Post α)} (hbefore : c.places.Perm ((n, p) :: others))
    (hafter : c'.places.Perm ((n, p') :: others)) (hkeys : (c'.held.map (·.1)).Nodup)
    (hsorted : c'.asleep.Pairwise fun e e' => e.1 ≤ e'.1) {s : Surroundings σ} {eager : Prop}
    {events : List (CrewEvent α)} {F : Floor σ α}
    (hstep : c.floor.post n = p → c.floor.Step s eager events F) (hstate : c'.state = F.state)
    (hposts : (c.floor.put n p').post = F.post)
    (hqueue : ∀ k, (c'.held.lookup k).map (·.map Member.number) = F.queue k) :
    c'.Tidy ∧ c.floor.Step s eager events c'.floor := by
  obtain ⟨hnumbers, hmoved⟩ := postIn_moved p' h.numbers hbefore hafter
  have hpost : c.floor.post n = p :=
    postIn_of_mem h.numbers (hbefore.mem_iff.mpr List.mem_cons_self)
  exact step_of_posts (hstep hpost) hnumbers hkeys hsorted hstate (hmoved.trans hposts) hqueue

/-- What comes first in one part of a list can come first in the whole list. -/
theorem perm_inside {ι : Type} (before : List ι) {part part' : List ι} {x : ι}
    (h : part'.Perm (x :: part)) : (before ++ part').Perm (x :: (before ++ part)) :=
  (h.append_left before).trans List.perm_middle

theorem endedPlaces_append (rs : List (Nat × α)) (n : Nat) (a : α) :
    (endedPlaces (rs ++ [(n, a)])).Perm ((n, .ended a) :: endedPlaces rs) := by
  rw [endedPlaces, List.map_append]
  exact List.perm_append_singleton _ _

theorem asleepPlaces_putToSleep (due : Nat) (m : Member α) (es : List (Nat × Member α)) :
    (asleepPlaces (putToSleep due m es)).Perm ((m.number, .asleep due m.rest) :: asleepPlaces es) := by
  induction es with
  | nil => exact List.Perm.refl _
  | cons e es ih =>
    unfold putToSleep
    split
    · exact List.Perm.refl _
    · exact (ih.cons _).trans (List.Perm.swap _ _ _)

theorem sorted_putToSleep {due : Nat} {m : Member α} {es : List (Nat × Member α)}
    (h : es.Pairwise fun e e' => e.1 ≤ e'.1) :
    (putToSleep due m es).Pairwise fun e e' => e.1 ≤ e'.1 := by
  have hmem : ∀ (es : List (Nat × Member α)) e, e ∈ putToSleep due m es → e = (due, m) ∨ e ∈ es := by
    intro es
    induction es with
    | nil => simp [putToSleep]
    | cons e' es ih =>
      intro e he
      unfold putToSleep at he
      split at he
      · simpa using he
      · rcases List.mem_cons.mp he with rfl | he
        · exact .inr List.mem_cons_self
        · exact (ih e he).imp id (List.mem_cons_of_mem _)
  induction es with
  | nil => exact List.pairwise_singleton _ _
  | cons e es ih =>
    obtain ⟨he, hes⟩ := List.pairwise_cons.mp h
    unfold putToSleep
    split
    · rename_i hlt
      refine List.pairwise_cons.mpr ⟨fun e' he' => ?_, h⟩
      rcases List.mem_cons.mp he' with rfl | he'
      · exact Nat.le_of_lt hlt
      · exact Nat.le_trans (Nat.le_of_lt hlt) (he e' he')
    · rename_i hle
      refine List.pairwise_cons.mpr ⟨fun e' he' => ?_, ih hes⟩
      rcases hmem es e' he' with rfl | he'
      · exact Nat.le_of_not_lt hle
      · exact he e' he'

section Turn

variable {s : Surroundings σ} {c : Crew σ α} {n : Nat} {others : List (Member α)}

def otherPlaces (c : Crew σ α) (others : List (Member α)) : List (Nat × Post α) :=
  readyPlaces others ++ (asleepPlaces c.asleep ++ (queuedPlaces c.held ++ endedPlaces c.ended))

theorem places_of_ready {m : Member α} (h : c.ready = m :: others) :
    c.places = (m.number, .ready m.rest) :: c.otherPlaces others := by
  rw [places, h]
  rfl

theorem Tidy.turn_done {a : α} (h : c.Tidy) (hready : c.ready = ⟨n, .done a⟩ :: others)
    (eager : Prop) : (c.turn s).Tidy ∧ c.floor.Step s eager c.happens (c.turn s).floor := by
  have hturn : c.turn s = { c with ready := others, ended := c.ended ++ [(n, a)] } := by
    simp only [turn, hready]
  have hhappens : c.happens = [.ended n a] := by simp only [happens, hready]
  rw [hturn, hhappens]
  refine h.step_of_moved (.ended a) (.of_eq (places_of_ready hready)) ?_ ?_ ?_
    (fun hpost => .finish hpost) ?_ ?_ ?_
  · exact perm_inside _ (perm_inside _ (perm_inside _ (endedPlaces_append c.ended n a)))
  · exact h.keys
  · exact h.sorted
  · rfl
  · rfl
  · exact fun k => rfl

/-- The queues after a change of one of them. -/
theorem queue_changeQueue {key : String} {q : List (Member α)} (hlookup : c.held.lookup key = some q)
    (change : List (Member α) → List (Member α)) (k : String) :
    ((changeQueue key change c.held).lookup k).map (·.map Member.number) =
      if k = key then some ((change q).map Member.number) else c.floor.queue k := by
  rw [lookup_changeQueue]
  by_cases hk : k = key
  · rw [if_pos hk, if_pos hk, hk, hlookup]
    rfl
  · rw [if_neg hk, if_neg hk]
    rfl

section Acquire

variable {key : String} {next : Unit → Program α}
  (hready : c.ready = ⟨n, .ask (.acquire key) next⟩ :: others)

include hready

theorem turn_of_acquire :
    c.turn s = ({ c with state := (s.answer (.acquire key) c.state).2 } : Crew σ α).acquire key
      ⟨n, next ()⟩ others ∧
    c.happens = .asked n (.acquire key) ::
      if (c.held.lookup key).isNone then [.granted n key] else [] := by
  constructor
  · simp only [turn, hready]
    rfl
  · simp only [happens, hready]

theorem Tidy.turn_enter (h : c.Tidy) (hlookup : c.held.lookup key = none) (eager : Prop) :
    (c.turn s).Tidy ∧ c.floor.Step s eager c.happens (c.turn s).floor := by
  obtain ⟨hturn, hhappens⟩ := turn_of_acquire (s := s) hready
  have hkeys : (((key, []) :: c.held).map (·.1)).Nodup := by
    refine List.nodup_cons.mpr ⟨fun hmem => ?_, h.keys⟩
    obtain ⟨e, he, hek⟩ := List.mem_map.mp hmem
    have hne := List.lookup_eq_none_iff.mp hlookup e he
    simp [hek] at hne
  have hfree : c.floor.queue key = none := by simp [floor, hlookup]
  rw [hturn, hhappens, acquire]
  simp only [hlookup]
  refine h.step_of_moved (.ready (next ())) (.of_eq (places_of_ready hready)) ?_ ?_ ?_
    (fun hpost => .enter hpost hfree) ?_ ?_ ?_
  · exact .refl _
  · exact hkeys
  · exact h.sorted
  · rfl
  · rfl
  · intro k
    rw [List.lookup_cons, Floor.queue_line]
    by_cases hk : k = key
    · simp [hk]
    · have hne : (k == key) = false := by simpa using hk
      rw [hne, if_neg hk]
      rfl

theorem Tidy.turn_wait (h : c.Tidy) {q : List (Member α)} (hlookup : c.held.lookup key = some q)
    (eager : Prop) : (c.turn s).Tidy ∧ c.floor.Step s eager c.happens (c.turn s).floor := by
  obtain ⟨hturn, hhappens⟩ := turn_of_acquire (s := s) hready
  obtain ⟨rest, hold, hnew⟩ := queuedPlaces_changeQueue (· ++ [⟨n, next ()⟩]) hlookup h.keys
  have hqueued : (queuedPlaces (changeQueue key (· ++ [⟨n, next ()⟩]) c.held)).Perm
      ((n, .queued key (next ())) :: queuedPlaces c.held) := by
    refine hnew.trans (.trans ?_ (hold.symm.cons _))
    rw [List.map_append, List.append_assoc]
    exact List.perm_middle
  have hheld : c.floor.queue key = some (q.map Member.number) := by simp [floor, hlookup]
  rw [hturn, hhappens, acquire]
  simp only [hlookup]
  refine h.step_of_moved (.queued key (next ())) (.of_eq (places_of_ready hready)) ?_ ?_ ?_
    (fun hpost => .wait hpost hheld) ?_ ?_ ?_
  · exact perm_inside _ (perm_inside _ (hqueued.append_right _))
  · rw [keys_changeQueue]
    exact h.keys
  · exact h.sorted
  · rfl
  · rfl
  · intro k
    rw [queue_changeQueue hlookup, List.map_append]
    rfl

theorem Tidy.turn_acquire (h : c.Tidy) (eager : Prop) :
    (c.turn s).Tidy ∧ c.floor.Step s eager c.happens (c.turn s).floor := by
  cases hlookup : c.held.lookup key with
  | none => exact h.turn_enter hready hlookup eager
  | some q => exact h.turn_wait hready hlookup eager

end Acquire

section Release

variable {key : String} {next : Unit → Program α}
  (hready : c.ready = ⟨n, .ask (.release key) next⟩ :: others)

include hready

theorem turn_of_release :
    c.turn s = ({ c with state := (s.answer (.release key) c.state).2 } : Crew σ α).release key
      ⟨n, next ()⟩ others ∧
    c.happens = .asked n (.release key) :: .released n key :: c.passesOn key := by
  constructor
  · simp only [turn, hready]
    rfl
  · simp only [happens, hready]

/-- A lock that nobody waits for is taken from the table. -/
theorem Tidy.turn_letGo (h : c.Tidy) (hnone : ∀ q, c.held.lookup key = some q → q = [])
    (eager : Prop) : (c.turn s).Tidy ∧ c.floor.Step s eager c.happens (c.turn s).floor := by
  have hturn : c.turn s = { c with
      state := (s.answer (.release key) c.state).2
      ready := ⟨n, next ()⟩ :: others
      held := c.held.filter fun e => e.1 ≠ key } := by
    rw [(turn_of_release hready).1, release]
    cases hlookup : c.held.lookup key with
    | none => rfl
    | some q => rw [hnone q hlookup]
  have hhappens : c.happens = [.asked n (.release key), .released n key] := by
    rw [(turn_of_release (s := s) hready).2, passesOn]
    cases hlookup : c.held.lookup key with
    | none => rfl
    | some q => rw [hnone q hlookup]
  have hqueue : c.floor.queue key = none ∨ c.floor.queue key = some [] := by
    cases hlookup : c.held.lookup key with
    | none => exact .inl (by simp [floor, hlookup])
    | some q => exact .inr (by simp [floor, hlookup, hnone q hlookup])
  rw [hturn, hhappens]
  refine h.step_of_moved (.ready (next ())) (.of_eq (places_of_ready hready)) ?_ ?_ ?_
    (fun hpost => .letGo hpost hqueue) ?_ ?_ ?_
  · unfold places
    rw [queuedPlaces_filter hnone h.keys]
    exact .refl _
  · exact h.keys.sublist (List.filter_sublist.map _)
  · exact h.sorted
  · rfl
  · rfl
  · intro k
    rw [lookup_filter_key, Floor.queue_line]
    split <;> rfl

/-- A lock that others wait for goes to the first of them. -/
theorem Tidy.turn_handOver (h : c.Tidy) {first : Member α} {q : List (Member α)}
    (hlookup : c.held.lookup key = some (first :: q)) (eager : Prop) :
    (c.turn s).Tidy ∧ c.floor.Step s eager c.happens (c.turn s).floor := by
  have hturn : c.turn s = { c with
      state := (s.answer (.release key) c.state).2
      ready := ⟨n, next ()⟩ :: others ++ [first]
      held := changeQueue key (·.drop 1) c.held } := by
    rw [(turn_of_release hready).1, release]
    simp only [hlookup]
  have hhappens : c.happens =
      [.asked n (.release key), .released n key, .granted first.number key] := by
    rw [(turn_of_release (s := s) hready).2, passesOn]
    simp only [hlookup]
  have hbefore := places_of_ready hready
  obtain ⟨rest, hold, hnew⟩ := queuedPlaces_changeQueue (·.drop 1) hlookup h.keys
  rw [hturn, hhappens]
  -- The program that hands over moves first, then the one that gets the lock.
  have hturned : c.places.Perm
      ((n, .ready (.ask (.release key) next)) :: c.otherPlaces others) := .of_eq hbefore
  obtain ⟨hnumbers, hposts⟩ := postIn_moved (.ready (next ())) h.numbers hturned (.refl _)
  have hwaiting : ((n, .ready (next ())) :: c.otherPlaces others).Perm
      ((first.number, .queued key first.rest) :: (n, .ready (next ())) ::
        (readyPlaces others ++ (asleepPlaces c.asleep ++
          (q.map (fun m => (m.number, .queued key m.rest)) ++ rest ++ endedPlaces c.ended)))) :=
    ((perm_inside _ (perm_inside _ (hold.append_right _))).cons _).trans (.swap _ _ _)
  have hafter : (places { c with
      state := (s.answer (.release key) c.state).2
      ready := ⟨n, next ()⟩ :: others ++ [first]
      held := changeQueue key (·.drop 1) c.held }).Perm
      ((first.number, .ready first.rest) :: (n, .ready (next ())) ::
        (readyPlaces others ++ (asleepPlaces c.asleep ++
          (q.map (fun m => (m.number, .queued key m.rest)) ++ rest ++ endedPlaces c.ended)))) := by
    have hready' : (readyPlaces (⟨n, next ()⟩ :: others ++ [first])).Perm
        ((first.number, .ready first.rest) :: readyPlaces (⟨n, next ()⟩ :: others)) := by
      rw [readyPlaces, List.map_append]
      exact List.perm_append_singleton _ _
    refine (hready'.append_right _).trans ?_
    exact (((((hnew.append_right _).append_left _).append_left _).cons _).cons _)
  obtain ⟨hnumbers', hposts'⟩ := postIn_moved (.ready first.rest) hnumbers hwaiting hafter
  have hfirst : c.floor.post first.number = .queued key first.rest := by
    refine postIn_of_mem h.numbers ?_
    rw [hbefore]
    refine List.mem_cons_of_mem _ (List.mem_append_right _ (List.mem_append_right _
      (List.mem_append_left _ (hold.mem_iff.mpr ?_))))
    exact List.mem_append_left _ List.mem_cons_self
  have hpost : c.floor.post n = .ready (.ask (.release key) next) :=
    postIn_of_mem h.numbers (hbefore ▸ List.mem_cons_self)
  have hheld : c.floor.queue key = some (first.number :: q.map Member.number) := by
    simp [floor, hlookup]
  refine Tidy.step_of_posts (.handOver hpost hheld hfirst) ?_ ?_ ?_ ?_ ?_ ?_
  · exact hnumbers'
  · rw [keys_changeQueue]
    exact h.keys
  · exact h.sorted
  · rfl
  · rw [hposts', hposts]
    rfl
  · exact fun k => queue_changeQueue hlookup _ k

theorem Tidy.turn_release (h : c.Tidy) (eager : Prop) :
    (c.turn s).Tidy ∧ c.floor.Step s eager c.happens (c.turn s).floor := by
  cases hlookup : c.held.lookup key with
  | none => exact h.turn_letGo hready (by simp [hlookup]) eager
  | some q =>
    cases q with
    | nil => exact h.turn_letGo hready (by simp [hlookup]) eager
    | cons first q => exact h.turn_handOver hready hlookup eager

end Release

theorem turn_of_not_lock {r : Request} {next : r.Answer → Program α} (hr : r.isOfLock = false)
    (hready : c.ready = ⟨n, .ask r next⟩ :: others) :
    c.turn s = goOn s c (s.answer r c.state).2 ⟨n, next (s.answer r c.state).1⟩ others ∧
      c.happens = [.asked n r] := by
  simp only [turn, happens, hready]
  cases r <;> first | exact ⟨rfl, rfl⟩ | cases hr

theorem Tidy.turn_other {r : Request} {next : r.Answer → Program α} (h : c.Tidy)
    (hr : r.isOfLock = false) (hready : c.ready = ⟨n, .ask r next⟩ :: others) (eager : Prop) :
    (c.turn s).Tidy ∧ c.floor.Step s eager c.happens (c.turn s).floor := by
  obtain ⟨hturn, hhappens⟩ := turn_of_not_lock (s := s) hr hready
  have hbefore := places_of_ready hready
  rw [hturn, hhappens]
  by_cases htime : s.time c.state < s.time (s.answer r c.state).2
  · simp only [goOn, if_pos htime]
    refine h.step_of_moved (.asleep (s.time (s.answer r c.state).2) (next (s.answer r c.state).1))
      (.of_eq hbefore) ?_ ?_ ?_ (fun hpost => .sleep hpost hr htime) ?_ ?_ ?_
    · exact perm_inside _ ((asleepPlaces_putToSleep _ _ _).append_right _)
    · exact h.keys
    · exact sorted_putToSleep h.sorted
    · rfl
    · rfl
    · exact fun k => rfl
  · simp only [goOn, if_neg htime]
    refine h.step_of_moved (.ready (next (s.answer r c.state).1)) (.of_eq hbefore) ?_ ?_ ?_
      (fun hpost => .goOn hpost hr htime) ?_ ?_ ?_
    · exact .refl _
    · exact h.keys
    · exact h.sorted
    · rfl
    · rfl
    · exact fun k => rfl

/-- **A turn of a crew is a step of its floor.** -/
theorem Tidy.turn {m : Member α} (h : c.Tidy) (hready : c.ready = m :: others) (eager : Prop) :
    (c.turn s).Tidy ∧ c.floor.Step s eager c.happens (c.turn s).floor := by
  obtain ⟨n, rest⟩ := m
  cases rest with
  | done a => exact h.turn_done hready eager
  | ask r next =>
    cases hr : r.isOfLock with
    | false => exact h.turn_other hr hready eager
    | true =>
      cases r with
      | acquire key => exact h.turn_acquire hready eager
      | release key => exact h.turn_release hready eager
      | _ => cases hr

end Turn

/-! ## Waking -/

section Wake

variable {s : Surroundings σ} {c : Crew σ α}

theorem postIn_map_wake (due : Nat) (ps : List (Nat × Post α)) (i : Nat) :
    postIn (ps.map fun e => (e.1, e.2.wake due)) i = (postIn ps i).wake due := by
  induction ps with
  | nil => rfl
  | cons e ps ih =>
    obtain ⟨n, p⟩ := e
    rw [List.map_cons, postIn_cons, postIn_cons, ih]
    split <;> rfl

theorem wake_of_asleep {due : Nat} {first : Member α} {es : List (Nat × Member α)}
    (hasleep : c.asleep = (due, first) :: es) : c.wake s = { c with
      state := s.atTime due c.state
      ready := c.ready ++ (c.asleep.takeWhile fun e => e.1 = due).map (·.2)
      asleep := c.asleep.dropWhile fun e => e.1 = due } := by
  unfold wake
  rw [hasleep]

/-- Those who sleep come in two parts: the first are due, and the rest are not. -/
theorem asleepPlaces_wake {due : Nat} {es : List (Nat × Member α)}
    (hsorted : es.Pairwise fun e e' => e.1 ≤ e'.1) (hle : ∀ e ∈ es, due ≤ e.1) :
    (asleepPlaces es).map (fun e => (e.1, e.2.wake due)) =
      readyPlaces ((es.takeWhile fun e => e.1 = due).map (·.2)) ++
        asleepPlaces (es.dropWhile fun e => e.1 = due) := by
  induction es with
  | nil => rfl
  | cons e es ih =>
    obtain ⟨he, hes⟩ := List.pairwise_cons.mp hsorted
    by_cases hd : e.1 = due
    · rw [List.takeWhile_cons_of_pos (by simpa using hd),
        List.dropWhile_cons_of_pos (by simpa using hd)]
      have hrest := ih hes fun e' he' => hle e' (List.mem_cons_of_mem _ he')
      simp only [asleepPlaces, List.map_cons, readyPlaces] at hrest ⊢
      rw [hrest, Post.wake, if_pos hd]
      rfl
    · rw [List.takeWhile_cons_of_neg (by simpa using hd),
        List.dropWhile_cons_of_neg (by simpa using hd)]
      have hlt : ∀ e' ∈ e :: es, e'.1 ≠ due := by
        intro e' he'
        have hge := hle e List.mem_cons_self
        rcases List.mem_cons.mp he' with rfl | he'
        · exact hd
        · have := he e' he'
          omega
      simp only [asleepPlaces, List.map_map, List.map_nil, readyPlaces, List.nil_append]
      refine List.map_congr_left fun e' he' => ?_
      show (e'.2.number, if e'.1 = due then _ else _) = _
      rw [if_neg (hlt e' he')]

/-- Who sleeps sleeps until the next one wakes, at least. -/
theorem Tidy.due_le {due : Nat} {first : Member α} {es : List (Nat × Member α)} (h : c.Tidy)
    (hasleep : c.asleep = (due, first) :: es) : ∀ e ∈ c.asleep, due ≤ e.1 := by
  have hsorted := h.sorted
  rw [hasleep] at hsorted ⊢
  intro e he
  rcases List.mem_cons.mp he with rfl | he
  · exact Nat.le_refl _
  · exact (List.pairwise_cons.mp hsorted).1 e he

/-- Waking changes the places of those who are due. -/
theorem places_wake {due : Nat} {first : Member α} {es : List (Nat × Member α)} (h : c.Tidy)
    (hasleep : c.asleep = (due, first) :: es) :
    (c.wake s).places = c.places.map fun e => (e.1, e.2.wake due) := by
  have hready : ∀ ms : List (Member α),
      (readyPlaces ms).map (fun e => (e.1, e.2.wake due)) = readyPlaces ms := fun ms => by
    simp [readyPlaces, Post.wake]
  have hqueued : (queuedPlaces c.held).map (fun e => (e.1, e.2.wake due)) = queuedPlaces c.held := by
    simp only [queuedPlaces, List.map_flatMap, List.map_map]
    rfl
  have hended : (endedPlaces c.ended).map (fun e => (e.1, e.2.wake due)) = endedPlaces c.ended := by
    simp [endedPlaces, Post.wake]
  have hdue := asleepPlaces_wake h.sorted (h.due_le hasleep)
  rw [wake_of_asleep hasleep]
  simp only [places, List.map_append, hready, hdue, hqueued, hended]
  rw [readyPlaces, readyPlaces, List.map_append, List.append_assoc, List.append_assoc]
  rfl

/-- **Waking is a step of the floor**, if anyone sleeps. -/
theorem Tidy.wake {eager : Prop} (h : c.Tidy) (heager : eager → c.ready = []) :
    c.wake s = c ∨ (c.wake s).Tidy ∧ c.floor.Step s eager [] (c.wake s).floor := by
  cases hasleep : c.asleep with
  | nil => exact .inl (by simp only [Crew.wake, hasleep])
  | cons e es =>
    obtain ⟨due, first⟩ := e
    have hplaces := places_wake (s := s) h hasleep
    have hfirst : c.floor.post first.number = .asleep due first.rest := by
      refine postIn_of_mem h.numbers ?_
      unfold places
      rw [hasleep]
      exact List.mem_append_right _ (List.mem_append_left _ List.mem_cons_self)
    have hready : eager → ∀ i p, c.floor.post i ≠ .ready p := by
      intro he i p hp
      have hmem := mem_ready hp
      rw [heager he] at hmem
      cases hmem
    have hle : ∀ i d p, c.floor.post i = .asleep d p → due ≤ d :=
      fun i d p hp => h.due_le hasleep _ (mem_asleep hp)
    have hwake := wake_of_asleep (s := s) hasleep
    refine .inr (Tidy.step_of_posts (.wake hready hfirst hle) ?_ ?_ ?_ ?_ ?_ ?_)
    · rw [hplaces, List.map_map]
      exact h.numbers
    · rw [hwake]
      exact h.keys
    · rw [hwake]
      exact h.sorted.sublist (List.dropWhile_sublist _)
    · rw [hwake]
      rfl
    · rw [hplaces]
      exact funext fun i => postIn_map_wake due c.places i
    · intro k
      rw [hwake]
      rfl

end Wake

/-! ## Invariants -/

/-- A turn of any program that is ready is a step of the floor. -/
theorem Tidy.turn_of_perm {s : Surroundings σ} {c : Crew σ α} {m : Member α}
    {others : List (Member α)} (h : c.Tidy) (hperm : c.ready.Perm (m :: others)) (eager : Prop) :
    ({ c with ready := m :: others }.turn s).Tidy ∧
      c.floor.Step s eager (happens { c with ready := m :: others })
        ({ c with ready := m :: others }.turn s).floor := by
  -- The order of those who are ready does not show on the floor.
  have hplaces : c.places.Perm (places { c with ready := m :: others }) :=
    (hperm.map _).append_right _
  have hc : Tidy { c with ready := m :: others } :=
    ⟨(hplaces.map _).nodup_iff.mp h.numbers, h.keys, h.sorted⟩
  have hfloor : floor { c with ready := m :: others } = c.floor :=
    Floor.ext rfl (postIn_perm hplaces h.numbers) rfl
  have hturn := hc.turn (s := s) rfl eager
  rwa [hfloor] at hturn

/-- **What all steps of floors keep holds in every interleaving.** -/
theorem Reaches.invariant {s : Surroundings σ} {eager : Prop} {start c : Crew σ α}
    {log : List (CrewEvent α)} {I : List (CrewEvent α) → Floor σ α → Prop} (htidy : start.Tidy)
    (hstart : I [] start.floor)
    (hstep : ∀ log F events F', I log F → Floor.Step s eager F events F' → I (log ++ events) F')
    (h : Reaches s eager start log c) : c.Tidy ∧ I log c.floor := by
  induction h with
  | start => exact ⟨htidy, hstart⟩
  | turn _ hperm ih =>
    obtain ⟨hc, hI⟩ := ih
    obtain ⟨hturn, hfloors⟩ := hc.turn_of_perm (s := s) hperm eager
    exact ⟨hturn, hstep _ _ _ _ hI hfloors⟩
  | wake _ heager ih =>
    obtain ⟨hc, hI⟩ := ih
    rcases hc.wake heager with hsame | ⟨hwake, hfloors⟩
    · rw [hsame]
      exact ⟨hc, hI⟩
    · refine ⟨hwake, ?_⟩
      have := hstep _ _ _ _ hI hfloors
      rwa [List.append_nil] at this

end DeployWatch.Crew
