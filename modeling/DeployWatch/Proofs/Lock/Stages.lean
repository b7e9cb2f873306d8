import DeployWatch.Lock.Section
import DeployWatch.Proofs.Program.Locks
import DeployWatch.Simulation.World

/-!
# The stages of a section

* `Section.program_eq`, `Section.orderly`: the program of a section, request by request;
* `Section.course`: what comes about with a section, from its first request to its end;
* `SectionStage`: how far a section has come, with `post` and `events`;
* `post_eq_done`, `post_eq_acquire`, `post_eq_release`, `post_eq_queued`: stages by their next request;
* `SectionStage.go`, `go_spec`: the stage after a request that has nothing to do with the lock;
* `SectionStage.Timely`: what the stage of a section says about the time.
-/

namespace DeployWatch

open Program (ask done)
open Simulation (World)

/-! ## The program of a section -/

namespace Section

variable (s : Section)

def afterStop (start stop : Nat) : Program SectionRun :=
  ask (.release s.key) fun _ => done ⟨start, stop, s.ending⟩

def afterHold (start : Nat) : Program SectionRun := ask .elapsed fun stop => s.afterStop start stop

def afterStart (start : Nat) : Program SectionRun := ask (.sleep s.hold) fun _ => s.afterHold start

def afterGrant : Program SectionRun := ask .elapsed fun start => s.afterStart start

def afterArrival : Program SectionRun := ask (.acquire s.key) fun _ => s.afterGrant

theorem program_eq : s.program = ask (.sleep s.arrival) fun _ => s.afterArrival := rfl

theorem orderly : s.program.Orderly := by
  rw [program_eq]
  exact .ask rfl fun _ => .acquire
    (.ask rfl fun _ => .ask rfl fun _ => .ask rfl fun _ => .release trivial)

/-- What comes about with a section, from its first request to its end. -/
def course (n : Nat) (run : SectionRun) : List (CrewEvent SectionRun) :=
  [.asked n (.sleep s.arrival), .asked n (.acquire s.key), .granted n s.key, .asked n .elapsed,
    .asked n (.sleep s.hold), .asked n .elapsed, .asked n (.release s.key), .released n s.key,
    .ended n run]

end Section

/-! ## Stages -/

/-- How far a section has come, with the times at which it wakes and those that it has noted. -/
inductive SectionStage where
  | fresh
  | coming (due : Nat)
  | arrived
  | waiting
  | entered
  | begun (start : Nat)
  | resting (start due : Nat)
  | rested (start : Nat)
  | stopped (start stop : Nat)
  | left (start stop : Nat)
  | gone (start stop : Nat)

namespace SectionStage

/-- Where a section stands. -/
def post (s : Section) : SectionStage → Post SectionRun
  | fresh => .ready (ask (.sleep s.arrival) fun _ => s.afterArrival)
  | coming due => .asleep due s.afterArrival
  | arrived => .ready s.afterArrival
  | waiting => .queued s.key s.afterGrant
  | entered => .ready s.afterGrant
  | begun start => .ready (s.afterStart start)
  | resting start due => .asleep due (s.afterHold start)
  | rested start => .ready (s.afterHold start)
  | stopped start stop => .ready (s.afterStop start stop)
  | left start stop => .ready (done ⟨start, stop, s.ending⟩)
  | gone start stop => .ended ⟨start, stop, s.ending⟩

/-- How much of its course a section has done. -/
def length : SectionStage → Nat
  | fresh => 0
  | coming _ => 1
  | arrived => 1
  | waiting => 2
  | entered => 3
  | begun _ => 4
  | resting .. => 5
  | rested _ => 5
  | stopped .. => 6
  | left .. => 8
  | gone .. => 9

/-- When a section has started, if it has noted that. -/
def start? : SectionStage → Option Nat
  | begun start => some start
  | resting start _ => some start
  | rested start => some start
  | stopped start _ => some start
  | left start _ => some start
  | gone start _ => some start
  | _ => none

/-- When a section has stopped, if it has noted that. -/
def stop? : SectionStage → Option Nat
  | stopped _ stop => some stop
  | left _ stop => some stop
  | gone _ stop => some stop
  | _ => none

/-- The times of a section, as far as it has noted them. -/
def run (s : Section) (st : SectionStage) : SectionRun :=
  ⟨st.start?.getD 0, st.stop?.getD 0, s.ending⟩

/-- What has come about with a section. -/
def events (s : Section) (n : Nat) (st : SectionStage) : List (CrewEvent SectionRun) :=
  (s.course n (st.run s)).take st.length

variable {s : Section} {st : SectionStage} {n : Nat}

theorem events_prefix : st.events s n <+: s.course n (st.run s) := List.take_prefix _ _

theorem asked_mem_events_iff {k : String} :
    .asked n (.acquire k) ∈ st.events s n ↔ k = s.key ∧ 2 ≤ st.length := by
  cases st <;> simp [events, Section.course, length]

theorem granted_mem_events_iff {k : String} :
    .granted n k ∈ st.events s n ↔ k = s.key ∧ 3 ≤ st.length := by
  cases st <;> simp [events, Section.course, length]

theorem released_mem_events_iff {k : String} :
    .released n k ∈ st.events s n ↔ k = s.key ∧ 8 ≤ st.length := by
  cases st <;> simp [events, Section.course, length]

/-! ### Stages by what comes next -/

theorem post_eq_done {a : SectionRun} (h : st.post s = .ready (.done a)) :
    ∃ start stop, st = left start stop ∧ a = ⟨start, stop, s.ending⟩ := by
  cases st <;> cases h
  exact ⟨_, _, rfl, rfl⟩

theorem post_eq_acquire {key : String} {next : Unit → Program SectionRun}
    (h : st.post s = .ready (.ask (.acquire key) next)) :
    st = arrived ∧ key = s.key ∧ next () = s.afterGrant := by
  cases st <;> cases h
  exact ⟨rfl, rfl, rfl⟩

theorem post_eq_release {key : String} {next : Unit → Program SectionRun}
    (h : st.post s = .ready (.ask (.release key) next)) :
    ∃ start stop, st = stopped start stop ∧ key = s.key ∧
      next () = .done ⟨start, stop, s.ending⟩ := by
  cases st <;> cases h
  exact ⟨_, _, rfl, rfl, rfl⟩

theorem post_eq_queued {key : String} {p : Program SectionRun} (h : st.post s = .queued key p) :
    st = waiting ∧ key = s.key ∧ p = s.afterGrant := by
  cases st <;> cases h
  exact ⟨rfl, rfl, rfl⟩

theorem post_eq_ended {run : SectionRun} (h : st.post s = .ended run) :
    ∃ start stop, st = gone start stop ∧ run = ⟨start, stop, s.ending⟩ := by
  cases st <;> cases h
  exact ⟨_, _, rfl, rfl⟩

/-- The stage after a request that has nothing to do with the lock. -/
def go (s : Section) (now : Nat) : SectionStage → SectionStage
  | fresh => if s.arrival = 0 then arrived else coming (now + s.arrival)
  | entered => begun now
  | begun start => if s.hold = 0 then rested start else resting start (now + s.hold)
  | rested start => stopped start now
  | st => st

/-- The stage when those wake that are due. -/
def wake (due : Nat) : SectionStage → SectionStage
  | coming d => if d = due then arrived else coming d
  | resting start d => if d = due then rested start else resting start d
  | st => st

theorem post_wake (due : Nat) : (st.wake due).post s = (st.post s).wake due := by
  cases st with
  | coming d =>
    show (if d = due then arrived else coming d).post s = if d = due then _ else _
    split <;> rfl
  | resting start d =>
    show (if d = due then rested start else resting start d).post s = if d = due then _ else _
    split <;> rfl
  | _ => rfl

theorem events_wake (due : Nat) : (st.wake due).events s n = st.events s n := by
  cases st with
  | coming d =>
    show (if d = due then arrived else coming d).events s n = _
    split <;> rfl
  | resting start d =>
    show (if d = due then rested start else resting start d).events s n = _
    split <;> rfl
  | _ => rfl

/-- What a request that has nothing to do with the lock changes: it leaves the table of keys alone, and
the section sleeps exactly if time passes. -/
theorem go_spec {r : Request} {next : r.Answer → Program SectionRun} (w : World)
    (h : st.post s = .ready (.ask r next)) (hr : r.isOfLock = false) :
    (st.go s w.time).events s n = st.events s n ++ [.asked n r] ∧
      (w.answer r).2.keys = w.keys ∧
      (w.time < (w.answer r).2.time →
        (st.go s w.time).post s = .asleep (w.answer r).2.time (next (w.answer r).1)) ∧
      (¬ w.time < (w.answer r).2.time → (w.answer r).2.time = w.time ∧
        (st.go s w.time).post s = .ready (next (w.answer r).1)) := by
  cases st with
  | fresh =>
    cases h
    show (if s.arrival = 0 then arrived else coming (w.time + s.arrival)).events s n = _ ∧ _ ∧
      (w.time < w.time + s.arrival → (if s.arrival = 0 then arrived else _).post s = _) ∧
      (¬ w.time < w.time + s.arrival → w.time + s.arrival = w.time ∧
        (if s.arrival = 0 then arrived else _).post s = _)
    by_cases harrival : s.arrival = 0
    · rw [if_pos harrival]
      exact ⟨rfl, rfl, fun hlt => by omega, fun _ => ⟨by omega, rfl⟩⟩
    · rw [if_neg harrival]
      exact ⟨rfl, rfl, fun _ => rfl, fun hlt => by omega⟩
  | entered =>
    cases h
    exact ⟨rfl, rfl, fun hlt => absurd hlt (Nat.lt_irrefl _), fun _ => ⟨rfl, rfl⟩⟩
  | begun start =>
    cases h
    show (if s.hold = 0 then rested start else resting start (w.time + s.hold)).events s n = _ ∧ _ ∧
      (w.time < w.time + s.hold → (if s.hold = 0 then rested start else _).post s = _) ∧
      (¬ w.time < w.time + s.hold → w.time + s.hold = w.time ∧
        (if s.hold = 0 then rested start else _).post s = _)
    by_cases hhold : s.hold = 0
    · rw [if_pos hhold]
      exact ⟨rfl, rfl, fun hlt => by omega, fun _ => ⟨by omega, rfl⟩⟩
    · rw [if_neg hhold]
      exact ⟨rfl, rfl, fun _ => rfl, fun hlt => by omega⟩
  | rested start =>
    cases h
    exact ⟨rfl, rfl, fun hlt => absurd hlt (Nat.lt_irrefl _), fun _ => ⟨rfl, rfl⟩⟩
  | arrived => cases h; cases hr
  | stopped start stop => cases h; cases hr
  | _ => cases h

theorem start?_go {now v : Nat} (h : (st.go s now).start? = some v) :
    st.start? = some v ∨ st = entered ∧ v = now := by
  cases st with
  | fresh =>
    change (if s.arrival = 0 then arrived else coming (now + s.arrival)).start? = some v at h
    split at h <;> cases h
  | entered => exact .inr ⟨rfl, (Option.some.inj h).symm⟩
  | begun start =>
    change (if s.hold = 0 then rested start else resting start (now + s.hold)).start? = some v at h
    split at h <;> exact .inl h
  | _ => exact .inl h

theorem stop?_go {now e : Nat} (h : st.stop? = some e) : (st.go s now).stop? = some e := by
  cases st <;> first | exact h | cases h

theorem start?_wake (due : Nat) : (st.wake due).start? = st.start? := by
  cases st with
  | coming d =>
    show (if d = due then arrived else coming d).start? = none
    split <;> rfl
  | resting start d =>
    show (if d = due then rested start else resting start d).start? = some start
    split <;> rfl
  | _ => rfl

theorem stop?_wake (due : Nat) : (st.wake due).stop? = st.stop? := by
  cases st with
  | coming d =>
    show (if d = due then arrived else coming d).stop? = none
    split <;> rfl
  | resting start d =>
    show (if d = due then rested start else resting start d).stop? = none
    split <;> rfl
  | _ => rfl

/-! ### Times -/

/-- What the stage of a section says about the time, if it can start at `start`. The times are exact if
nobody who is ready is kept waiting. -/
def Timely (eager : Prop) (s : Section) (start now : Nat) : SectionStage → Prop
  | fresh => eager → now = 0
  | coming due => now ≤ due ∧ (eager → due = s.arrival)
  | arrived => eager → now = s.arrival
  | waiting => eager → s.arrival ≤ now
  | entered => eager → now = start
  | begun v => eager → v = start ∧ now = start
  | resting v due => now ≤ due ∧ (eager → v = start ∧ due = start + s.hold ∧ start ≤ now)
  | rested v => eager → v = start ∧ now = start + s.hold
  | stopped v e => e ≤ now ∧ (eager → v = start ∧ e = start + s.hold ∧ now = e)
  | left v e => e ≤ now ∧ (eager → v = start ∧ e = start + s.hold)
  | gone v e => e ≤ now ∧ (eager → v = start ∧ e = start + s.hold)

namespace Timely

variable {eager : Prop} {start start' now due : Nat}

/-- Only who has got the lock has a time to start at. -/
theorem of_start (h : st.Timely eager s start now) (hstart : 3 ≤ st.length → start' = start) :
    st.Timely eager s start' now := by
  cases st with
  | fresh => exact h
  | coming _ => exact h
  | arrived => exact h
  | waiting => exact h
  | _ =>
    rw [hstart (by simp [length])]
    exact h

theorem go {r : Request} {next : r.Answer → Program SectionRun} (h : st.Timely eager s start now)
    (hpost : st.post s = .ready (.ask r next)) (hr : r.isOfLock = false) :
    (st.go s now).Timely eager s start now := by
  cases st with
  | fresh =>
    show SectionStage.Timely eager s start now
      (if s.arrival = 0 then arrived else coming (now + s.arrival))
    split
    · rename_i harrival
      exact fun he => (h he).trans harrival.symm
    · exact ⟨Nat.le_add_right _ _, fun he => by rw [h he, Nat.zero_add]⟩
  | entered => exact fun he => ⟨h he, h he⟩
  | begun v =>
    show SectionStage.Timely eager s start now
      (if s.hold = 0 then rested v else resting v (now + s.hold))
    split
    · rename_i hhold
      exact fun he => ⟨(h he).1, by rw [hhold, (h he).2, Nat.add_zero]⟩
    · exact ⟨Nat.le_add_right _ _, fun he => ⟨(h he).1, by rw [(h he).2], Nat.le_of_eq (h he).2.symm⟩⟩
  | rested v => exact ⟨Nat.le_refl _, fun he => ⟨(h he).1, (h he).2, rfl⟩⟩
  | arrived => cases hpost; cases hr
  | stopped v e => cases hpost; cases hr
  | _ => cases hpost

/-- Nobody who sleeps has to wake already. -/
theorem le_due {p : Program SectionRun} (h : st.Timely eager s start now)
    (hpost : st.post s = .asleep due p) : now ≤ due := by
  cases st with
  | coming d =>
    cases hpost
    exact h.1
  | resting v d =>
    cases hpost
    exact h.1
  | _ => cases hpost

theorem wake (h : st.Timely eager s start now) (hnow : now ≤ due)
    (hready : eager → ∀ p, st.post s ≠ .ready p) (hdue : ∀ d p, st.post s = .asleep d p → due ≤ d) :
    (st.wake due).Timely eager s start due := by
  cases st with
  | coming d =>
    show SectionStage.Timely eager s start due (if d = due then arrived else coming d)
    split
    · rename_i hd
      exact fun he => hd ▸ h.2 he
    · exact ⟨hdue _ _ rfl, h.2⟩
  | resting v d =>
    show SectionStage.Timely eager s start due (if d = due then rested v else resting v d)
    split
    · rename_i hd
      exact fun he => ⟨(h.2 he).1, hd ▸ (h.2 he).2.1⟩
    · exact ⟨hdue _ _ rfl, fun he => ⟨(h.2 he).1, (h.2 he).2.1, Nat.le_trans (h.2 he).2.2 hnow⟩⟩
  | waiting => exact fun he => Nat.le_trans (h he) hnow
  | gone v e => exact ⟨Nat.le_trans h.1 hnow, h.2⟩
  | left v e => exact ⟨Nat.le_trans h.1 hnow, h.2⟩
  | stopped v e => exact ⟨Nat.le_trans h.1 hnow, fun he => absurd rfl (hready he _)⟩
  | _ => exact fun he => absurd rfl (hready he _)

/-- Who has asked for its lock has arrived. -/
theorem arrival_le (h : st.Timely eager s start now) (hasked : 2 ≤ st.length) (he : eager)
    (hstart : s.arrival ≤ start) : s.arrival ≤ now := by
  cases st with
  | fresh => exact absurd hasked (by decide)
  | coming _ => exact absurd hasked (by simp [length])
  | arrived => exact absurd hasked (by decide)
  | waiting => exact h he
  | entered => exact (h he).symm ▸ hstart
  | begun v => exact (h he).2.symm ▸ hstart
  | resting v d => exact Nat.le_trans hstart (h.2 he).2.2
  | rested v =>
    have := (h he).2
    omega
  | _ =>
    obtain ⟨hle, htimes⟩ := h
    have := (htimes he).2
    omega

theorem stop_le {e : Nat} (h : st.Timely eager s start now) (he : st.stop? = some e) : e ≤ now := by
  cases st with
  | stopped v e' =>
    cases he
    exact h.1
  | left v e' =>
    cases he
    exact h.1
  | gone v e' =>
    cases he
    exact h.1
  | _ => cases he

end Timely

end SectionStage

end DeployWatch
