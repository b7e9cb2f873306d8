import DeployWatch.Proofs.Rollout.LastPoll
import DeployWatch.Simulation.World

/-!
# How long an observation polls

The timeout of a task decides how often its application is looked at, and the distance of the polls is
configured apart from it.

* `Surroundings.KeepsTime`, `Program.fetchTimes`: how time passes, and when a run asks for applications;
* `PollPolicy.count_forTimeout`: the number of polls that a timeout gives;
* `Watcher.pollTimes_fetchTimes`: when polls are made that leave a rollout pending;
* `Watcher.UsesUp`: an observation ends because its polls are used up;
* **`Watcher.polls_in_proportion`**: the first and the last poll are as many delays apart as the timeout
  has parts of fifteen seconds;
* `Watcher.budget_missed`: with another delay that is less, or much more, than the timeout.
-/

namespace DeployWatch

open Program (ask done)

/-! ## Time -/

/-- A delay takes its time, and an answer about an application comes within so many milliseconds. -/
structure Surroundings.KeepsTime {σ : Type} (s : Surroundings σ) (patience : Nat) : Prop where
  sleep : ∀ duration w, s.time (s.answer (.sleep duration) w).2 = s.time w + duration
  le_application : ∀ name w, s.time w ≤ s.time (s.answer (.application name) w).2
  application_le : ∀ name w, s.time (s.answer (.application name) w).2 ≤ s.time w + patience

namespace Program

variable {σ α β : Type} (s : Surroundings σ)

/-- The times at which a run asks for an application. -/
def fetchTimes : Program α → σ → List Nat
  | done _, _ => []
  | ask r next, w =>
    (if r.isFetch then [s.time w] else []) ++ (next (s.answer r w).1).fetchTimes (s.answer r w).2

theorem fetchTimes_bind (p : Program α) (f : α → Program β) (w : σ) : (p.bind f).fetchTimes s w =
    p.fetchTimes s w ++ (f (p.run s w).1).fetchTimes s (p.run s w).2 := by
  induction p generalizing w with
  | done a => rfl
  | ask r next ih => simp only [ask_bind, fetchTimes, run_ask, List.append_assoc, ih]

theorem Only.fetchTimes_eq_nil {p : Program α} (hp : p.Only (·.isFetch = false)) (w : σ) :
    p.fetchTimes s w = [] := by
  induction p generalizing w with
  | done a => rfl
  | ask r next ih =>
    rw [fetchTimes, if_neg (ne_true_of_eq_false hp.1), ih _ (hp.2 _)]
    rfl

end Program

/-! ## The number of polls -/

namespace PollPolicy

/-- The number of parts of fifteen seconds that a timeout has, the last one possibly shorter. -/
def parts (timeout : Int64) : Nat := (divUp timeout.toInt secondsPerAttempt).toNat

theorem parts_bounds {timeout : Int64} (hpositive : 0 < timeout.toInt) :
    timeout.toInt ≤ 15 * parts timeout ∧ 15 * parts timeout < timeout.toInt + 15 := by
  unfold parts divUp secondsPerAttempt
  omega

/-- **One poll more than the timeout has parts**, as long as there are so many polls. -/
theorem count_forTimeout (p : PollPolicy) {timeout : Int64} (hpositive : 0 < timeout.toInt)
    (hmost : timeout.toInt ≤ 15 * (UInt32.size - 2)) :
    (p.forTimeout timeout).count = parts timeout + 1 := by
  have hsize : UInt32.size = 4294967296 := rfl
  have hne : timeout ≠ 0 := by
    rintro rfl
    exact absurd hpositive (by decide)
  have hwanted : 0 < divUp timeout.toInt secondsPerAttempt + 1 := by
    unfold divUp secondsPerAttempt
    omega
  have hfew : (divUp timeout.toInt secondsPerAttempt + 1).toNat < UInt32.size := by
    unfold divUp secondsPerAttempt
    omega
  rw [count, forTimeout, if_neg hne]
  dsimp only
  rw [if_pos hwanted]
  dsimp only
  rw [Nat.min_eq_left (by omega), UInt32.toNat_ofNat_of_lt' hfew, parts]
  omega

end PollPolicy

/-! ## The times of the polls -/

namespace Watcher

variable {σ : Type} {s : Surroundings σ} {patience : Nat} (w : Watcher) (t : Task)

/-- The times of one look that leaves the rollout pending. -/
theorem look_fetchTimes (s : Surroundings σ) (baseline : String) (script : Nat → Sighting)
    (pending : Pending → Application → Program Outcome) (v : σ) (i : Nat)
    (hpending : (w.reading t baseline (script i)).1 = false) :
    ∃ why a, (w.look t baseline pending).fetchTimes (s.answering script) (v, i) =
      s.time v :: (pending why a).fetchTimes (s.answering script)
        ((s.answer (.application t.app) v).2, i + 1) := by
  rw [look_eq, Program.fetchTimes, answering_application]
  cases h : script i with
  | error e =>
    rw [h] at hpending
    cases hpending
  | ok a =>
    rw [h, reading_ok] at hpending
    cases hw : w.assess t baseline a with
    | inl outcome =>
      rw [hw] at hpending
      cases hpending
    | inr why => exact ⟨why, a, by dsimp only; rw [hw]; rfl⟩

/-- **When polls are made that leave the rollout pending.** -/
theorem pollTimes_fetchTimes (hs : s.KeepsTime patience) (baseline : String)
    (script : Nat → Sighting) (left : Nat) (v : σ) (i : Nat)
    (hpending : ∀ j ≤ left, (w.reading t baseline (script (j + i))).1 = false) :
    let times := (w.pollTimes t baseline left).fetchTimes (s.answering script) (v, i)
    times.length = left + 1 ∧ times.head? = some (s.time v) ∧
      ∀ last ∈ times.getLast?, s.time v + left * w.poll.delay ≤ last ∧
        last ≤ s.time v + left * (w.poll.delay + patience) := by
  induction left generalizing v i with
  | zero =>
    intro times
    obtain ⟨why, a, hlook⟩ := w.look_fetchTimes t s baseline script
      (fun why a => done (.failed (exhausted why a t))) v i (by simpa using hpending 0 (Nat.le_refl 0))
    have htimes : times = [s.time v] := hlook
    simp [htimes]
  | succ left ih =>
    intro times
    obtain ⟨why, a, hlook⟩ := w.look_fetchTimes t s baseline script
      (fun _ _ => ask (.sleep w.poll.delay) fun _ => w.pollTimes t baseline left) v i
      (by simpa using hpending 0 (Nat.zero_le _))
    obtain ⟨fetched, hfetched⟩ : ∃ v', v' = (s.answer (.application t.app) v).2 := ⟨_, rfl⟩
    obtain ⟨rest, hrest⟩ : ∃ v', v' = (s.answer (.sleep w.poll.delay) fetched).2 := ⟨_, rfl⟩
    obtain ⟨hlength, -, hlast⟩ := ih rest (i + 1) fun j hj => by
      have hnext := hpending (j + 1) (Nat.succ_le_succ hj)
      rwa [Nat.add_assoc, Nat.add_comm 1] at hnext
    have htimes : times = s.time v ::
        (w.pollTimes t baseline left).fetchTimes (s.answering script) (rest, i + 1) := by
      rw [hrest, hfetched]
      exact hlook
    have hslept : s.time rest = s.time fetched + w.poll.delay := by rw [hrest, hs.sleep]
    have hearliest : s.time v ≤ s.time fetched := hfetched ▸ hs.le_application _ _
    have hlatest : s.time fetched ≤ s.time v + patience := hfetched ▸ hs.application_le _ _
    refine ⟨by rw [htimes, List.length_cons, hlength], by rw [htimes]; rfl, fun last hmem => ?_⟩
    have hne : (w.pollTimes t baseline left).fetchTimes (s.answering script) (rest, i + 1) ≠ [] :=
      List.ne_nil_of_length_eq_add_one hlength
    rw [htimes, List.getLast?_cons_of_ne_nil hne] at hmem
    obtain ⟨hlow, hhigh⟩ := hlast last hmem
    rw [Nat.succ_mul, Nat.succ_mul]
    omega

/-- An observation ends because its polls are used up: the baseline is taken, the update succeeds, and
none of the answers to the polls ends them. -/
def UsesUp (s : Surroundings σ) (v : σ) (script : Nat → Sighting) : Prop :=
  ∃ a, script 0 = .ok a ∧
    ((w.updateOverrides a t).run s (s.answer (.application t.app) v).2).1 = .ok () ∧
    ∀ i < (w.poll.forTimeout t.timeout).count,
      (w.reading t (fingerprint a.images) (script (i + 1))).1 = false

/-- The times of the polls of an observation, which come after the question for the baseline. -/
def observedAt (s : Surroundings σ) (v : σ) (script : Nat → Sighting) : List Nat :=
  ((w.observe t).fetchTimes (s.answering script) (v, 0)).tail

theorem observedAt_of_usesUp {v : σ} {script : Nat → Sighting} (h : w.UsesUp t s v script) :
    ∃ (a : Application) (v' : σ), w.observedAt t s v script =
        (w.pollAll t (fingerprint a.images)).fetchTimes (s.answering script) (v', 1) ∧
      ∀ i < (w.poll.forTimeout t.timeout).count,
        (w.reading t (fingerprint a.images) (script (i + 1))).1 = false := by
  obtain ⟨a, hfirst, hupdate, hpending⟩ := h
  have hquiet : (w.updateOverrides a t).Only (·.isFetch = false) :=
    w.updateOverrides_only (fun q hq => by cases q <;> first | rfl | exact absurd hq Bool.false_ne_true)
      (fun q hq => by cases q <;> first | rfl | exact absurd hq Bool.false_ne_true) a t
  obtain ⟨hrun, -⟩ := answering_run s script hquiet (s.answer (.application t.app) v).2 1
  refine ⟨a, ((w.updateOverrides a t).run s (s.answer (.application t.app) v).2).2, ?_, hpending⟩
  rw [observedAt, observe_eq, Program.fetchTimes, answering_application, hfirst]
  dsimp only
  rw [Program.fetchTimes_bind, hquiet.fetchTimes_eq_nil, hrun, hupdate]
  rfl

/-- **The polls of an observation that uses them up span as many delays as its timeout has parts of
fifteen seconds**, together with the answers to all of them but the last. So they span the timeout in
proportion to the delay: at least the timeout if the delay is fifteen seconds or more, and less than
fifteen seconds more than the timeout if a delay and an answer take fifteen seconds at most. -/
theorem polls_in_proportion (hs : s.KeepsTime patience) {v : σ} {script : Nat → Sighting}
    (hpositive : 0 < t.timeout.toInt) (hmost : t.timeout.toInt ≤ 15 * (UInt32.size - 2))
    (husesUp : w.UsesUp t s v script) :
    let polls := w.observedAt t s v script
    let parts := PollPolicy.parts t.timeout
    polls.length = parts + 1 ∧ t.timeout.toInt ≤ 15 * parts ∧ 15 * parts < t.timeout.toInt + 15 ∧
    ∀ first ∈ polls.head?, ∀ last ∈ polls.getLast?,
      first + parts * w.poll.delay ≤ last ∧ last ≤ first + parts * (w.poll.delay + patience) ∧
      (15000 ≤ w.poll.delay → first + 1000 * t.timeout.toInt ≤ last) ∧
      (w.poll.delay + patience ≤ 15000 → last < first + 1000 * t.timeout.toInt + 15000) := by
  intro polls parts
  obtain ⟨a, v', hpolls, hpending⟩ := w.observedAt_of_usesUp t husesUp
  have hcount : (w.poll.forTimeout t.timeout).count = parts + 1 :=
    w.poll.count_forTimeout hpositive hmost
  obtain ⟨hleast, hbelow⟩ := PollPolicy.parts_bounds hpositive
  obtain ⟨hlength, hfirst, hlast⟩ := w.pollTimes_fetchTimes t hs (fingerprint a.images) script
    ((w.poll.forTimeout t.timeout).count - 1) v' 1 fun j hj => hpending j (by omega)
  rw [hcount, Nat.add_sub_cancel] at hlength hfirst hlast
  have hpolls' : polls =
      (w.pollTimes t (fingerprint a.images) parts).fetchTimes (s.answering script) (v', 1) := by
    rw [pollAll, hcount, Nat.add_sub_cancel] at hpolls
    exact hpolls
  rw [hpolls']
  refine ⟨hlength, hleast, hbelow, fun first hmem last hmem' => ?_⟩
  obtain rfl := Option.some.inj (hfirst.symm.trans hmem)
  obtain ⟨hlow, hhigh⟩ := hlast last hmem'
  refine ⟨hlow, hhigh, fun hdelay => ?_, fun hdelay => ?_⟩
  · have hscaled : parts * 15000 ≤ parts * w.poll.delay := Nat.mul_le_mul_left parts hdelay
    omega
  · have hscaled : parts * (w.poll.delay + patience) ≤ parts * 15000 :=
      Nat.mul_le_mul_left parts hdelay
    omega

end Watcher

/-! ## Observations in a simulated world -/

namespace Simulation

theorem World.keepsTime : World.surroundings.KeepsTime 0 := by
  have hquiet : ∀ name w, World.time (World.answer (.application name) w).2 = w.time := by
    intro name w
    show World.time ((w.log (.askedApplication name)).nextApplication name).2 = w.time
    unfold World.nextApplication
    split <;> rfl
  exact ⟨fun _ _ => rfl, fun name w => Nat.le_of_eq (hquiet name w).symm,
    fun name w => Nat.le_of_eq (hquiet name w)⟩

/-- A task whose images never come. -/
def waitingTask (timeout : Int64) : Task :=
  Submission.toTask { app := "demo", images := [⟨"demo/nginx", "v1"⟩], timeout := timeout } .nil
    (.ofNanos 0)

/-- A watcher with so many milliseconds between its polls. -/
def patientWatcher (delay : Nat) : Watcher where
  poll := { delay := delay }

/-- The times at which such a watcher looks at an application that never gets ready. -/
def polledAt (delay : Nat) (timeout : Int64) : List Nat :=
  (patientWatcher delay).observedAt (waitingTask timeout) World.surroundings { now := 0 } fun _ => .ok {}

/-- The polls for such an application are used up. -/
def PollsUsedUp (delay : Nat) (timeout : Int64) : Prop :=
  (patientWatcher delay).UsesUp (waitingTask timeout) World.surroundings { now := 0 } fun _ => .ok {}

end Simulation

open Simulation

/-- With the delay of fifteen seconds, a timeout of twenty seconds is kept. -/
theorem Watcher.polls_in_proportion_default : PollsUsedUp 15000 20 ∧
    ∀ first ∈ (polledAt 15000 20).head?, ∀ last ∈ (polledAt 15000 20).getLast?,
      first + 20000 ≤ last ∧ last < first + 35000 := by
  have husedUp : PollsUsedUp 15000 20 := ⟨{}, rfl, rfl, by decide +kernel⟩
  refine ⟨husedUp, fun first hfirst last hlast => ?_⟩
  obtain ⟨-, -, -, hspan⟩ := (patientWatcher 15000).polls_in_proportion (waitingTask 20)
    World.keepsTime (by decide +kernel) (by decide +kernel) husedUp
  obtain ⟨-, -, hlow, hhigh⟩ := hspan first hfirst last hlast
  have htimeout : (waitingTask 20).timeout.toInt = 20 := by decide +kernel
  have hdelay : (patientWatcher 15000).poll.delay = 15000 := rfl
  rw [htimeout, hdelay] at hlow hhigh
  have hlow' := hlow (by decide)
  have hhigh' := hhigh (by decide)
  omega

/-- **With another delay the timeout is missed on either side.** With five seconds between polls, a
timeout of fifteen seconds ends after five; with a minute between them, one of thirty seconds ends after
two minutes, which is more than fifteen seconds and a delay too late. -/
theorem Watcher.budget_missed :
    (∃ (delay : Nat) (timeout : Int64) (first last : Nat), 1000 ≤ delay ∧ 0 < timeout.toInt ∧
      timeout.toInt ≤ 15 * (UInt32.size - 2) ∧ PollsUsedUp delay timeout ∧
      (polledAt delay timeout).head? = some first ∧ (polledAt delay timeout).getLast? = some last ∧
      (last : Int) < first + 1000 * timeout.toInt) ∧
    ∃ (delay : Nat) (timeout : Int64) (first last : Nat), 1000 ≤ delay ∧ 0 < timeout.toInt ∧
      timeout.toInt ≤ 15 * (UInt32.size - 2) ∧ PollsUsedUp delay timeout ∧
      (polledAt delay timeout).head? = some first ∧ (polledAt delay timeout).getLast? = some last ∧
      (first : Int) + 1000 * timeout.toInt + 15000 + delay ≤ last := by
  constructor
  · refine ⟨5000, 15, 0, 5000, by decide, by decide, by decide, ⟨{}, rfl, rfl, ?_⟩, ?_, ?_, ?_⟩ <;>
      decide +kernel
  · refine ⟨60000, 30, 0, 120000, by decide, by decide, by decide, ⟨{}, rfl, rfl, ?_⟩, ?_, ?_, ?_⟩ <;>
      decide +kernel

end DeployWatch
