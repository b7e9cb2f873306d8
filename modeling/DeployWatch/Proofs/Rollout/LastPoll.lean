import DeployWatch.Proofs.GitOps.Requests
import DeployWatch.Rollout.Watch

/-!
# The last poll

If all answers of the control plane are known beforehand, an observation is told by its first answer and
by that of its last poll.

* `Surroundings.answering`: surroundings whose control plane gives the answers of a script;
* `Watcher.reading`: what one answer means, and whether it ends the polls;
* `lastPoll`, `Watcher.polled`, `Watcher.foretold`: the last poll that is made, and what comes of it;
* `lastPoll_of_first`, `lastPoll_of_none`, `lastPoll_spec`: it is the first that ends them, if there is one;
* `Watcher.pollTimes_run`: the polls alone;
* **`Watcher.observe_run`**: an observation ends as foretold, after as many polls;
* `Watcher.foretold_congr`: the answers that make a difference.
-/

namespace DeployWatch

open Program (ask done)

/-! ## Scripted answers -/

/-- The answer to a question for an application. -/
abbrev Sighting := Except ControlPlaneError Application

/-- The same surroundings, except that the control plane gives the answers of a script, one after the
other; the second part of the state counts them. -/
def Surroundings.answering {σ : Type} (s : Surroundings σ) (script : Nat → Sighting) :
    Surroundings (σ × Nat) where
  answer r w :=
    match r with
    | .application name => (script w.2, (s.answer (.application name) w.1).2, w.2 + 1)
    | r => ((s.answer r w.1).1, (s.answer r w.1).2, w.2)
  time w := s.time w.1
  atTime t w := (s.atTime t w.1, w.2)

def Request.isFetch : Request → Bool
  | .application _ => true
  | _ => false

section Script

variable {σ : Type} (s : Surroundings σ) (script : Nat → Sighting)

@[simp] theorem answering_application (name : String) (w : σ × Nat) :
    (s.answering script).answer (.application name) w =
      (script w.2, (s.answer (.application name) w.1).2, w.2 + 1) := rfl

@[simp] theorem answering_sleep (duration : Nat) (w : σ × Nat) :
    (s.answering script).answer (.sleep duration) w =
      ((), (s.answer (.sleep duration) w.1).2, w.2) := rfl

theorem answering_of_not_fetch {r : Request} (hr : r.isFetch = false) (v : σ) (i : Nat) :
    (s.answering script).answer r (v, i) = ((s.answer r v).1, (s.answer r v).2, i) := by
  cases r <;> first | rfl | exact absurd hr Bool.noConfusion

/-- A program that asks for no application sees nothing of a script. -/
theorem answering_run {α : Type} {p : Program α} (hp : p.Only (·.isFetch = false)) (v : σ) (i : Nat) :
    p.run (s.answering script) (v, i) = ((p.run s v).1, (p.run s v).2, i) ∧
      p.requests (s.answering script) (v, i) = p.requests s v := by
  induction p generalizing v with
  | done a => exact ⟨rfl, rfl⟩
  | ask r next ih =>
    simp only [Program.run_ask, Program.requests_ask, answering_of_not_fetch s script hp.1]
    obtain ⟨hrun, hrequests⟩ := ih (s.answer r v).1 (hp.2 _) (s.answer r v).2
    exact ⟨hrun, congrArg _ hrequests⟩

end Script

theorem Watcher.updateOverrides_only {P : Request → Prop} (w : Watcher)
    (hgit : ∀ q : Request, q.isOfGit → P q) (hupdate : ∀ q : Request, q.isOfUpdate → P q)
    (a : Application) (t : Task) : (w.updateOverrides a t).Only P := by
  unfold Watcher.updateOverrides
  cases w.updater with
  | none => trivial
  | some u => exact u.update_only hgit hupdate a t

/-! ## What is foretold -/

namespace Watcher

/-- What an answer means for a rollout: whether it ends the polls, and the outcome if it is the last
answer. -/
def reading (w : Watcher) (t : Task) (baseline : String) : Sighting → Bool × Outcome
  | .error e => (true, .failed (.controlPlane e))
  | .ok a =>
    if a.watch.fireAndForget then (true, .deployed)
    else match judge w.options t.images baseline a.observation with
      | .deployed => (true, .deployed)
      | .regressed => (true, .failed (.degraded (.ofApplication a)))
      | .pending why => (false, .failed (exhausted why a t))

end Watcher

/-- The last of `n` polls that is made, counted from zero: the first that ends them, or else the last
one. -/
def lastPoll (n : Nat) (ends : Nat → Bool) : Nat := ((List.range n).find? ends).getD (n - 1)

/-- An outcome and the number of polls that were made for it. -/
structure Observed where
  outcome : Outcome
  polls : Nat

/-- The requests of so many polls, one at least, with a delay between them. -/
def pollRequests (app : String) (delay : Nat) : Nat → List Request
  | 0 => []
  | 1 => [.application app]
  | n + 2 => .application app :: .sleep delay :: pollRequests app delay (n + 1)

namespace Watcher

/-- What comes of `n` polls at most, given their answers: the last one that is made decides. -/
def polled (w : Watcher) (t : Task) (baseline : String) (n : Nat) (script : Nat → Sighting) : Observed :=
  let last := lastPoll n fun i => (w.reading t baseline (script i)).1
  ⟨(w.reading t baseline (script last)).2, last + 1⟩

/-- How the rollout of a task ends, given all answers of the control plane and what comes of the
update of overrides. The baseline is that of the first answer. -/
def foretold (w : Watcher) (t : Task) (script : Nat → Sighting)
    (updated : Application → Except GitOpsError Unit) : Observed :=
  match script 0 with
  | .error e => ⟨.failed (.controlPlane e), 0⟩
  | .ok a =>
    match updated a with
    | .error e => ⟨.failed (.gitOps e.message), 0⟩
    | .ok () =>
      w.polled t (fingerprint a.images) (w.poll.forTimeout t.timeout).count fun i => script (i + 1)

end Watcher

/-! ## The last poll -/

/-- The first poll that ends them is the last one. -/
theorem lastPoll_of_first {n k : Nat} {ends : Nat → Bool} (hk : k < n) (hends : ends k = true)
    (hbefore : ∀ j < k, ends j = false) : lastPoll n ends = k := by
  have hfirst : (List.range n).find? ends = some k :=
    List.find?_range_eq_some.mpr ⟨hends, List.mem_range.mpr hk, fun j hj => by rw [hbefore j hj]; rfl⟩
  rw [lastPoll, hfirst, Option.getD_some]

theorem lastPoll_of_none {n : Nat} {ends : Nat → Bool} (h : ∀ j < n, ends j = false) :
    lastPoll n ends = n - 1 := by
  have hnone : (List.range n).find? ends = none :=
    List.find?_range_eq_none.mpr fun j hj => by rw [h j hj]; rfl
  rw [lastPoll, hnone, Option.getD_none]

/-- **Which poll is the last one.** -/
theorem lastPoll_spec (n : Nat) (ends : Nat → Bool) :
    (lastPoll n ends < n ∧ ends (lastPoll n ends) = true ∧ ∀ j < lastPoll n ends, ends j = false) ∨
      lastPoll n ends = n - 1 ∧ ∀ j < n, ends j = false := by
  cases h : (List.range n).find? ends with
  | some k =>
    obtain ⟨hends, hk, hbefore⟩ := List.find?_range_eq_some.mp h
    have hpending : ∀ j < k, ends j = false := fun j hj => by simpa using hbefore j hj
    rw [lastPoll_of_first (List.mem_range.mp hk) hends hpending]
    exact .inl ⟨List.mem_range.mp hk, hends, hpending⟩
  | none =>
    have hpending : ∀ j < n, ends j = false :=
      fun j hj => by simpa using List.find?_range_eq_none.mp h j hj
    exact .inr ⟨lastPoll_of_none hpending, hpending⟩

theorem lastPoll_one (ends : Nat → Bool) : lastPoll 1 ends = 0 := by
  rcases lastPoll_spec 1 ends with ⟨hlt, -⟩ | ⟨hlast, -⟩
  · exact Nat.lt_one_iff.mp hlt
  · exact hlast

theorem lastPoll_of_ends (n : Nat) {ends : Nat → Bool} (h : ends 0 = true) :
    lastPoll (n + 1) ends = 0 := lastPoll_of_first n.succ_pos h nofun

theorem lastPoll_of_not_ends (n : Nat) {ends : Nat → Bool} (h : ends 0 = false) :
    lastPoll (n + 2) ends = lastPoll (n + 1) (fun i => ends (i + 1)) + 1 := by
  have hpending {m : Nat} (hrest : ∀ j < m, ends (j + 1) = false) : ∀ j < m + 1, ends j = false
    | 0, _ => h
    | j + 1, hj => hrest j (Nat.lt_of_succ_lt_succ hj)
  rcases lastPoll_spec (n + 1) (fun i => ends (i + 1)) with ⟨hlt, hends, hbefore⟩ | ⟨hlast, hnone⟩
  · exact lastPoll_of_first (Nat.succ_lt_succ hlt) hends (hpending hbefore)
  · rw [hlast]
    exact lastPoll_of_none (hpending hnone)

/-! ## The polls -/

namespace Watcher

variable {σ : Type} (w : Watcher) (t : Task) (baseline : String)

theorem look_eq (pending : Pending → Application → Program Outcome) :
    w.look t baseline pending = ask (.application t.app) fun
      | .error e => done (.failed (.controlPlane e))
      | .ok a =>
        match w.assess t baseline a with
        | .inl outcome => done outcome
        | .inr why => pending why a := rfl

theorem reading_ok (a : Application) : w.reading t baseline (.ok a) =
    match w.assess t baseline a with
    | .inl outcome => (true, outcome)
    | .inr why => (false, .failed (exhausted why a t)) := by
  unfold reading assess
  dsimp only
  split
  · rfl
  · cases judge w.options t.images baseline a.observation <;> rfl

theorem look_run (s : Surroundings σ) (script : Nat → Sighting)
    (pending : Pending → Application → Program Outcome) (v : σ) (i : Nat)
    (p : Program Outcome)
    (hpending : ∀ why a, script i = .ok a → w.assess t baseline a = .inr why → pending why a = p) :
    let tells := w.reading t baseline (script i)
    let after := ((s.answer (.application t.app) v).2, i + 1)
    (w.look t baseline pending).run (s.answering script) (v, i) =
        (if tells.1 then (tells.2, after) else p.run (s.answering script) after) ∧
      (w.look t baseline pending).requests (s.answering script) (v, i) =
        .application t.app :: (if tells.1 then [] else p.requests (s.answering script) after) := by
  intro tells after
  rw [look_eq]
  cases h : script i with
  | error e => simp [tells, after, h, reading]
  | ok a =>
    cases hw : w.assess t baseline a with
    | inl outcome => simp [tells, after, h, hw, reading_ok]
    | inr why => simp [tells, after, h, hw, reading_ok, hpending why a h hw]

theorem pollTimes_zero : w.pollTimes t baseline 0 =
    w.look t baseline fun why a => done (.failed (exhausted why a t)) := rfl

theorem pollTimes_succ (left : Nat) : w.pollTimes t baseline (left + 1) =
    w.look t baseline fun _ _ => ask (.sleep w.poll.delay) fun _ => w.pollTimes t baseline left := rfl

theorem polled_one (script : Nat → Sighting) :
    w.polled t baseline 1 script = ⟨(w.reading t baseline (script 0)).2, 1⟩ := by
  simp only [polled, lastPoll_one]

theorem polled_of_ends (n : Nat) (script : Nat → Sighting)
    (h : (w.reading t baseline (script 0)).1 = true) :
    w.polled t baseline (n + 1) script = ⟨(w.reading t baseline (script 0)).2, 1⟩ := by
  have hlast : lastPoll (n + 1) (fun i => (w.reading t baseline (script i)).1) = 0 :=
    lastPoll_of_ends n h
  simp only [polled, hlast]

theorem polled_of_not_ends (n : Nat) (script : Nat → Sighting)
    (h : (w.reading t baseline (script 0)).1 = false) :
    w.polled t baseline (n + 2) script =
      ⟨(w.polled t baseline (n + 1) fun i => script (i + 1)).outcome,
        (w.polled t baseline (n + 1) fun i => script (i + 1)).polls + 1⟩ := by
  have hlast : lastPoll (n + 2) (fun i => (w.reading t baseline (script i)).1) = _ :=
    lastPoll_of_not_ends n h
  simp only [polled, hlast]

/-- **The polls alone**: they stop at the first answer that ends them, or else at the last one, and the
outcome is what that answer means. -/
theorem pollTimes_run (s : Surroundings σ) (script : Nat → Sighting) (left : Nat) (v : σ) (i : Nat) :
    let expected := w.polled t baseline (left + 1) fun j => script (j + i)
    let polls := w.pollTimes t baseline left
    (polls.run (s.answering script) (v, i)).1 = expected.outcome ∧
      (polls.run (s.answering script) (v, i)).2.2 = expected.polls + i ∧
      polls.requests (s.answering script) (v, i) =
        pollRequests t.app w.poll.delay expected.polls := by
  induction left generalizing v i with
  | zero =>
    intro expected polls
    obtain ⟨hrun, hrequests⟩ := w.look_run t baseline s script
      (fun why a => done (.failed (exhausted why a t))) v i
      (done (w.reading t baseline (script i)).2) (by
        intro why a ha hw
        simp only [ha, reading_ok, hw])
    have hexpected : expected = ⟨_, 1⟩ := w.polled_one t baseline fun j => script (j + i)
    simp [polls, pollTimes_zero, hrun, hrequests, hexpected, pollRequests, Nat.add_comm 1]
  | succ left ih =>
    intro expected polls
    obtain ⟨hrun, hrequests⟩ := w.look_run t baseline s script
      (fun _ _ => ask (.sleep w.poll.delay) fun _ => w.pollTimes t baseline left) v i
      (ask (.sleep w.poll.delay) fun _ => w.pollTimes t baseline left) fun _ _ _ _ => rfl
    simp only [polls, pollTimes_succ, hrun, hrequests]
    cases h : (w.reading t baseline (script i)).1 with
    | true =>
      have hexpected : expected = ⟨_, 1⟩ :=
        w.polled_of_ends t baseline (left + 1) (fun j => script (j + i)) (by rwa [Nat.zero_add])
      simp [hexpected, pollRequests, Nat.add_comm 1]
    | false =>
      have hexpected :=
        w.polled_of_not_ends t baseline left (fun j => script (j + i)) (by rwa [Nat.zero_add])
      obtain ⟨houtcome, hcount, hrest⟩ :=
        ih (s.answer (.sleep w.poll.delay) (s.answer (.application t.app) v).2).2 (i + 1)
      simp only [← Nat.add_assoc, Nat.add_right_comm _ i 1] at houtcome hcount hrest
      simp only [Bool.false_eq_true, if_false, Program.run_ask, Program.requests_ask, answering_sleep,
        expected, hexpected]
      refine ⟨houtcome, hcount, ?_⟩
      rw [hrest]
      rfl

theorem pollAll_run (s : Surroundings σ) (script : Nat → Sighting) (v : σ) (i : Nat) :
    let expected := w.polled t baseline (w.poll.forTimeout t.timeout).count fun j => script (j + i)
    let polls := w.pollAll t baseline
    (polls.run (s.answering script) (v, i)).1 = expected.outcome ∧
      (polls.run (s.answering script) (v, i)).2.2 = expected.polls + i ∧
      polls.requests (s.answering script) (v, i) =
        pollRequests t.app w.poll.delay expected.polls := by
  have hcount : (w.poll.forTimeout t.timeout).count - 1 + 1 = (w.poll.forTimeout t.timeout).count :=
    Nat.sub_add_cancel (Nat.le_max_right _ _)
  have h := w.pollTimes_run t baseline s script ((w.poll.forTimeout t.timeout).count - 1) v i
  rw [hcount] at h
  exact h

/-! ## The observation -/

theorem observe_eq : w.observe t = ask (.application t.app) fun
    | .error e => done (.failed (.controlPlane e))
    | .ok a => (w.updateOverrides a t).bind fun
      | .error e => done (.failed (.gitOps e.message))
      | .ok () => w.pollAll t (fingerprint a.images) := rfl

/-- The requests for the update of overrides, if the first answer asks for one. -/
def updateRequests (s : Surroundings σ) (v : σ) : Sighting → List Request
  | .error _ => []
  | .ok a => (w.updateOverrides a t).requests s v

/-- **An observation ends as foretold**, with one question for the application before the update and as
many as are foretold after it. -/
theorem observe_run (s : Surroundings σ) (script : Nat → Sighting) (v : σ) :
    let fetched := (s.answer (.application t.app) v).2
    let expected := w.foretold t script fun a => ((w.updateOverrides a t).run s fetched).1
    let ended := (w.observe t).run (s.answering script) (v, 0)
    ended.1 = expected.outcome ∧ ended.2.2 = expected.polls + 1 ∧
      (w.observe t).requests (s.answering script) (v, 0) =
        .application t.app :: (w.updateRequests t s fetched (script 0) ++
          pollRequests t.app w.poll.delay expected.polls) := by
  intro fetched expected ended
  simp only [ended, observe_eq, Program.run_ask, Program.requests_ask, answering_application]
  cases h : script 0 with
  | error e => simp [expected, foretold, h, updateRequests, pollRequests]
  | ok a =>
    have hupdate : (w.updateOverrides a t).Only (·.isFetch = false) :=
      w.updateOverrides_only (fun q hq => by cases q <;> first | rfl | exact absurd hq Bool.false_ne_true)
        (fun q hq => by cases q <;> first | rfl | exact absurd hq Bool.false_ne_true) a t
    obtain ⟨hrun, hrequests⟩ := answering_run s script hupdate fetched 1
    dsimp only
    rw [Program.run_bind, Program.requests_bind, Nat.zero_add, hrun, hrequests]
    cases hu : ((w.updateOverrides a t).run s fetched).1 with
    | error e => simp [expected, foretold, h, hu, updateRequests, pollRequests]
    | ok _ =>
      obtain ⟨houtcome, hcount, hpolls⟩ := w.pollAll_run t (fingerprint a.images) s script
        ((w.updateOverrides a t).run s fetched).2 1
      simp only [expected, foretold, h, hu]
      exact ⟨houtcome, hcount, congrArg _ (congrArg _ hpolls)⟩

/-- Two observations with equally many polls and the same first and last answers end alike. -/
theorem foretold_congr {script script' : Nat → Sighting}
    {updated : Application → Except GitOpsError Unit} (hfirst : script' 0 = script 0)
    (hpolls : (w.foretold t script' updated).polls = (w.foretold t script updated).polls)
    (hlast : script' (w.foretold t script updated).polls =
      script (w.foretold t script updated).polls) :
    (w.foretold t script' updated).outcome = (w.foretold t script updated).outcome := by
  unfold foretold at hpolls hlast ⊢
  rw [hfirst] at hpolls ⊢
  cases h : script 0 with
  | error e => rfl
  | ok a =>
    rw [h] at hpolls hlast
    cases hu : updated a with
    | error e => simp [hu]
    | ok _ =>
      simp only [hu] at hpolls hlast ⊢
      unfold polled at hpolls hlast ⊢
      simp only [Nat.add_right_cancel_iff] at hpolls hlast ⊢
      rw [hpolls, hlast]

end Watcher

end DeployWatch
