import DeployWatch.Proofs.Program.Interleaving

/-!
# The floor of a crew

What matters of a crew is where each program stands and who waits for which lock, not the order of its
lists. The floor of a crew says this by number and by key.

* `Floor`, `Floor.Step`: floors and the steps between them;
* `postIn`, `postIn_moved`: posts in lists of places;
* `Crew.floor`, `Tidy.lookup_ended_iff`, `not_ready_of_isOver`, `post_ofPrograms`: the floor of a crew.
-/

namespace DeployWatch

/-- Where the programs of a crew stand, and the numbers that wait for each lock that is held. -/
@[ext] structure Floor (σ α : Type) where
  state : σ
  post : Nat → Post α
  queue : String → Option (List Nat)

def Request.isOfLock : Request → Bool
  | .acquire _ => true
  | .release _ => true
  | _ => false

/-- A program that wakes when it is due. -/
def Post.wake {α : Type} (due : Nat) : Post α → Post α
  | asleep d p => if d = due then ready p else asleep d p
  | p => p

namespace Floor

variable {σ α : Type}

def within (F : Floor σ α) (w : σ) : Floor σ α := { F with state := w }

/-- Moves one program. -/
def put (F : Floor σ α) (n : Nat) (p : Post α) : Floor σ α :=
  { F with post := fun i => if i = n then p else F.post i }

/-- Changes who waits for one lock. -/
def line (F : Floor σ α) (key : String) (q : Option (List Nat)) : Floor σ α :=
  { F with queue := fun k => if k = key then q else F.queue k }

section Fields

variable (F : Floor σ α) (w : σ) (n i : Nat) (p : Post α) (key k : String) (q : Option (List Nat))

@[simp] theorem state_within : (F.within w).state = w := rfl
@[simp] theorem post_within : (F.within w).post = F.post := rfl
@[simp] theorem queue_within : (F.within w).queue = F.queue := rfl
@[simp] theorem state_put : (F.put n p).state = F.state := rfl
@[simp] theorem post_put : (F.put n p).post i = if i = n then p else F.post i := rfl
@[simp] theorem queue_put : (F.put n p).queue = F.queue := rfl
@[simp] theorem state_line : (F.line key q).state = F.state := rfl
@[simp] theorem post_line : (F.line key q).post = F.post := rfl
@[simp] theorem queue_line : (F.line key q).queue k = if k = key then q else F.queue k := rfl

end Fields

variable (s : Surroundings σ)

/-- The steps of a floor, with what they bring about. -/
inductive Step (eager : Prop) (F : Floor σ α) : List (CrewEvent α) → Floor σ α → Prop
  /-- A program ends. -/
  | finish {n : Nat} {a : α} : F.post n = .ready (.done a) →
    Step eager F [.ended n a] (F.put n (.ended a))
  /-- A program gets a lock that is free. -/
  | enter {n : Nat} {key : String} {next : Unit → Program α} :
    F.post n = .ready (.ask (.acquire key) next) → F.queue key = none →
    Step eager F [.asked n (.acquire key), .granted n key]
      (((F.within (s.answer (.acquire key) F.state).2).put n (.ready (next ()))).line key (some []))
  /-- A program waits for a lock. -/
  | wait {n : Nat} {key : String} {next : Unit → Program α} {q : List Nat} :
    F.post n = .ready (.ask (.acquire key) next) → F.queue key = some q →
    Step eager F [.asked n (.acquire key)]
      (((F.within (s.answer (.acquire key) F.state).2).put n (.queued key (next ()))).line key
        (some (q ++ [n])))
  /-- A program hands a lock over to the one that has waited longest. -/
  | handOver {n first : Nat} {key : String} {next : Unit → Program α} {q : List Nat}
      {p : Program α} :
    F.post n = .ready (.ask (.release key) next) → F.queue key = some (first :: q) →
    F.post first = .queued key p →
    Step eager F [.asked n (.release key), .released n key, .granted first key]
      ((((F.within (s.answer (.release key) F.state).2).put n (.ready (next ()))).put first
        (.ready p)).line key (some q))
  /-- A program sets a lock free. -/
  | letGo {n : Nat} {key : String} {next : Unit → Program α} :
    F.post n = .ready (.ask (.release key) next) → F.queue key = none ∨ F.queue key = some [] →
    Step eager F [.asked n (.release key), .released n key]
      (((F.within (s.answer (.release key) F.state).2).put n (.ready (next ()))).line key none)
  /-- A program asks for something that takes no time. -/
  | goOn {n : Nat} {r : Request} {next : r.Answer → Program α} :
    F.post n = .ready (.ask r next) → r.isOfLock = false →
    ¬ s.time F.state < s.time (s.answer r F.state).2 →
    Step eager F [.asked n r]
      ((F.within (s.answer r F.state).2).put n (.ready (next (s.answer r F.state).1)))
  /-- A program asks for something that takes time. -/
  | sleep {n : Nat} {r : Request} {next : r.Answer → Program α} :
    F.post n = .ready (.ask r next) → r.isOfLock = false →
    s.time F.state < s.time (s.answer r F.state).2 →
    Step eager F [.asked n r]
      ((F.within (s.atTime (s.time F.state) (s.answer r F.state).2)).put n
        (.asleep (s.time (s.answer r F.state).2) (next (s.answer r F.state).1)))
  /-- Time passes until the next program wakes. -/
  | wake {due n : Nat} {p : Program α} : (eager → ∀ i p, F.post i ≠ .ready p) →
    F.post n = .asleep due p → (∀ i d p, F.post i = .asleep d p → due ≤ d) →
    Step eager F []
      { F with state := s.atTime due F.state, post := fun i => (F.post i).wake due }

end Floor

namespace Crew

variable {σ α : Type}

/-! ## Posts in a list of places -/

def postIn (ps : List (Nat × Post α)) (n : Nat) : Post α := (ps.lookup n).getD .absent

theorem postIn_cons (n : Nat) (p : Post α) (ps : List (Nat × Post α)) (i : Nat) :
    postIn ((n, p) :: ps) i = if i = n then p else postIn ps i := by
  unfold postIn
  rw [List.lookup_cons]
  by_cases h : i = n
  · simp [h]
  · have hne : (i == n) = false := by simpa using h
    rw [hne, if_neg h]

theorem postIn_eq_absent {ps : List (Nat × Post α)} {n : Nat} (h : n ∉ ps.map (·.1)) :
    postIn ps n = .absent := by
  have hlookup : ps.lookup n = none := by
    refine List.lookup_eq_none_iff.mpr fun e he => ?_
    simpa using fun heq : n = e.1 => h (List.mem_map.mpr ⟨e, he, heq.symm⟩)
  rw [postIn, hlookup]
  rfl

theorem lookup_of_mem {β : Type} {ps : List (Nat × β)} (hps : (ps.map (·.1)).Nodup) {n : Nat} {b : β}
    (h : (n, b) ∈ ps) : ps.lookup n = some b := by
  obtain ⟨before, after, rfl⟩ := List.append_of_mem h
  refine List.lookup_eq_some_iff.mpr ⟨before, after, rfl, fun e he => ?_⟩
  rw [List.map_append, List.nodup_append] at hps
  have hne := hps.2.2 e.1 (List.mem_map_of_mem he) n List.mem_cons_self
  simpa using Ne.symm hne

theorem postIn_of_mem {ps : List (Nat × Post α)} (hps : (ps.map (·.1)).Nodup) {n : Nat} {p : Post α}
    (h : (n, p) ∈ ps) : postIn ps n = p := by
  rw [postIn, lookup_of_mem hps h]
  rfl

theorem mem_of_postIn {ps : List (Nat × Post α)} {n : Nat} {p : Post α} (h : postIn ps n = p)
    (hp : p ≠ .absent) : (n, p) ∈ ps := by
  induction ps with
  | nil => exact absurd h.symm hp
  | cons e ps ih =>
    obtain ⟨n', p'⟩ := e
    rw [postIn_cons] at h
    by_cases hn : n = n'
    · rw [if_pos hn] at h
      rw [hn, h]
      exact List.mem_cons_self
    · rw [if_neg hn] at h
      exact List.mem_cons_of_mem _ (ih h)

theorem postIn_perm {ps ps' : List (Nat × Post α)} (h : ps.Perm ps') (hps : (ps.map (·.1)).Nodup) :
    postIn ps' = postIn ps := by
  have hps' : (ps'.map (·.1)).Nodup := (h.map _).nodup_iff.mp hps
  funext n
  by_cases hn : n ∈ ps.map (·.1)
  · obtain ⟨⟨n, p⟩, hp, rfl⟩ := List.mem_map.mp hn
    rw [postIn_of_mem hps hp, postIn_of_mem hps' (h.mem_iff.mp hp)]
  · rw [postIn_eq_absent hn, postIn_eq_absent fun hn' => hn ((h.map _).mem_iff.mpr hn')]

/-- One program has moved in a list of places. -/
theorem postIn_moved {ps ps' others : List (Nat × Post α)} {n : Nat} {p : Post α} (p' : Post α)
    (hps : (ps.map (·.1)).Nodup) (h : ps.Perm ((n, p) :: others))
    (h' : ps'.Perm ((n, p') :: others)) :
    (ps'.map (·.1)).Nodup ∧ postIn ps' = fun i => if i = n then p' else postIn ps i := by
  have hn : (ps.map (·.1)).Perm (n :: others.map (·.1)) := h.map _
  have hn' : (ps'.map (·.1)).Perm (n :: others.map (·.1)) := h'.map _
  have hps' := (hn'.trans hn.symm).nodup_iff.mpr hps
  refine ⟨hps', funext fun i => ?_⟩
  rw [postIn_perm h.symm (hn.nodup_iff.mp hps), postIn_perm h'.symm (hn'.nodup_iff.mp hps'),
    postIn_cons, postIn_cons]
  split <;> rfl

/-! ## The floor of a crew -/

/-- The floor of a crew. -/
def floor (c : Crew σ α) : Floor σ α where
  state := c.state
  post := postIn c.places
  queue k := (c.held.lookup k).map (·.map Member.number)

section Members

variable {c : Crew σ α} {n : Nat} {p : Program α}

theorem mem_ready (h : c.floor.post n = .ready p) : ⟨n, p⟩ ∈ c.ready := by
  replace h := mem_of_postIn h (by simp)
  simp only [places, readyPlaces, asleepPlaces, queuedPlaces, endedPlaces, List.mem_append,
    List.mem_map, List.mem_flatMap, Prod.mk.injEq, Post.ready.injEq, reduceCtorEq, and_false,
    exists_false, or_false] at h
  obtain ⟨m, hm, rfl, rfl⟩ := h
  exact hm

theorem mem_asleep {due : Nat} (h : c.floor.post n = .asleep due p) : (due, ⟨n, p⟩) ∈ c.asleep := by
  replace h := mem_of_postIn h (by simp)
  simp only [places, readyPlaces, asleepPlaces, queuedPlaces, endedPlaces, List.mem_append,
    List.mem_map, List.mem_flatMap, Prod.mk.injEq, Post.asleep.injEq, reduceCtorEq, and_false,
    exists_false, or_false, false_or] at h
  obtain ⟨e, he, rfl, rfl, rfl⟩ := h
  exact he

theorem Tidy.nodup_ended (h : c.Tidy) : (c.ended.map (·.1)).Nodup := by
  have hnumbers := h.numbers
  simp only [places, List.map_append, List.nodup_append] at hnumbers
  have hended := hnumbers.2.1.2.1.2.1
  rwa [endedPlaces, List.map_map] at hended

theorem Tidy.lookup_ended_iff {a : α} (h : c.Tidy) :
    c.ended.lookup n = some a ↔ c.floor.post n = .ended a := by
  constructor
  · intro ha
    obtain ⟨before, after, hsplit, -⟩ := List.lookup_eq_some_iff.mp ha
    have hmem : (n, a) ∈ c.ended := by simp [hsplit]
    refine postIn_of_mem h.numbers ?_
    exact List.mem_append_right _ (List.mem_append_right _ (List.mem_append_right _
      (List.mem_map.mpr ⟨(n, a), hmem, rfl⟩)))
  · intro ha
    replace ha := mem_of_postIn ha (by simp)
    simp only [places, readyPlaces, asleepPlaces, queuedPlaces, endedPlaces, List.mem_append,
      List.mem_map, List.mem_flatMap, Prod.mk.injEq, Post.ended.injEq, reduceCtorEq, and_false,
      exists_false, false_or] at ha
    obtain ⟨r, hr, rfl, rfl⟩ := ha
    exact lookup_of_mem h.nodup_ended hr

/-- Once a crew is over, nobody is ready or asleep. -/
theorem not_ready_of_isOver (h : c.isOver = true) :
    c.floor.post n ≠ .ready p ∧ ∀ due, c.floor.post n ≠ .asleep due p := by
  unfold isOver at h
  rw [Bool.and_eq_true, List.isEmpty_iff, List.isEmpty_iff] at h
  refine ⟨fun hp => ?_, fun due hp => ?_⟩
  · have hmem := mem_ready hp
    rw [h.1] at hmem
    cases hmem
  · have hmem := mem_asleep hp
    rw [h.2] at hmem
    cases hmem

end Members

/-! ## The start of a crew -/

section OfPrograms

variable (programs : List (Program α)) (w : σ)

theorem places_ofPrograms : (ofPrograms programs w).places =
    programs.zipIdx.map fun e => (e.2, .ready e.1) := by
  simp [places, ofPrograms, readyPlaces, asleepPlaces, queuedPlaces, endedPlaces]

theorem tidy_ofPrograms : (ofPrograms programs w).Tidy where
  numbers := by
    rw [places_ofPrograms, List.map_map]
    show (programs.zipIdx.map Prod.snd).Nodup
    rw [List.zipIdx_map_snd]
    exact List.nodup_range'
  keys := List.nodup_nil
  sorted := List.Pairwise.nil

theorem post_ofPrograms (n : Nat) : (ofPrograms programs w).floor.post n =
    match programs[n]? with
    | some p => .ready p
    | none => .absent := by
  show postIn (ofPrograms programs w).places n = _
  cases h : programs[n]? with
  | some p =>
    refine postIn_of_mem (tidy_ofPrograms programs w).numbers ?_
    rw [places_ofPrograms]
    exact List.mem_map.mpr ⟨(p, n), List.mk_mem_zipIdx_iff_getElem?.mpr h, rfl⟩
  | none =>
    refine postIn_eq_absent ?_
    rw [places_ofPrograms, List.map_map]
    intro hn
    obtain ⟨⟨p, i⟩, hp, rfl⟩ := List.mem_map.mp hn
    change programs[i]? = none at h
    rw [List.mk_mem_zipIdx_iff_getElem?, h] at hp
    cases hp

end OfPrograms

end Crew

end DeployWatch
