import DeployWatch.Proofs.Rollout.Classified
import DeployWatch.Proofs.Rollout.LastPoll
import DeployWatch.Proofs.Rollout.Reports
import DeployWatch.Simulation.World

/-!
# How observations end

The ways in which an observation can end, given all answers of the control plane, and that each observation
ends in one of them.

* `Shortfall`: the failure of a rollout whose last snapshot leaves it pending;
* `Decides`, `LeavesPending`: what one answer means for a rollout;
* `decides_iff`, `leavesPending_iff`: it is taken for what it means;
* `Ends`: the ways to end, each with the outcome and the number of polls;
* `ends_iff`: there is one way to end;
* `Ends.deployed`: a rollout is deployed because its last answer says so;
* **`observe_ends`**: an observation ends as its answers say;
* `observe_ends_unfinished`: a rollout whose polls are used up, and one that gets worse.
-/

namespace DeployWatch

/-- The failure of a rollout that a snapshot leaves pending, if no other snapshot follows. -/
inductive Shortfall (t : Task) (a : Application) : Pending → Failure → Prop
  | notAvailable : Shortfall t a .notAvailable
      (.notAvailable a.state.images (t.images.map fun i => i.repository ++ ":" ++ i.tag))
  | notSynced {report : SyncReport} (h : report.Describes a) : Shortfall t a .notSynced (.notSynced report)
  | notHealthy {report : HealthReport} (h : report.Describes a) :
      Shortfall t a .notHealthy (.notHealthy report)
  | degradedUnchanged {report : HealthReport} (h : report.Describes a) :
      Shortfall t a .degradedUnchanged (.notHealthy report)

theorem shortfall_exhausted (t : Task) (a : Application) (why : Pending) :
    Shortfall t a why (exhausted why a t) := by
  cases why with
  | notAvailable => exact .notAvailable
  | notSynced => exact .notSynced (SyncReport.describes_iff.mpr rfl)
  | degradedUnchanged => exact .degradedUnchanged (HealthReport.describes_iff.mpr rfl)
  | notHealthy => exact .notHealthy (HealthReport.describes_iff.mpr rfl)

theorem exhausted_of_shortfall {t : Task} {a : Application} {why : Pending} {f : Failure}
    (h : Shortfall t a why f) : exhausted why a t = f := by
  cases h with
  | notAvailable => rfl
  | notSynced h => rw [SyncReport.describes_iff.mp h, exhausted]
  | notHealthy h => rw [HealthReport.describes_iff.mp h, exhausted]
  | degradedUnchanged h => rw [HealthReport.describes_iff.mp h, exhausted]

namespace Watcher

/-! ## Single answers -/

/-- How a snapshot of an application that is watched is classified. -/
structure Judged (w : Watcher) (t : Task) (baseline : String) (a : Application) (v : Verdict) : Prop where
  watched : a.watch.fireAndForget = false
  verdict : Classified w.options t.images baseline ⟨a.state.images, a.state.sync, a.state.health.status⟩ v

/-- An answer to a poll that ends the polls, and the outcome. -/
inductive Decides (w : Watcher) (t : Task) (baseline : String) : Sighting → Outcome → Prop
  | error (e : ControlPlaneError) : Decides w t baseline (.error e) (.failed (.controlPlane e))
  | fireAndForget {a : Application} (h : a.watch.fireAndForget = true) :
      Decides w t baseline (.ok a) .deployed
  | deployed {a : Application} (h : w.Judged t baseline a .deployed) : Decides w t baseline (.ok a) .deployed
  | regressed {a : Application} {report : HealthReport} (h : w.Judged t baseline a .regressed)
      (hreport : report.Describes a) : Decides w t baseline (.ok a) (.failed (.degraded report))

/-- An answer to a poll that does not end the polls, and the outcome if no other poll follows. -/
inductive LeavesPending (w : Watcher) (t : Task) (baseline : String) : Sighting → Outcome → Prop
  | pending {a : Application} {why : Pending} {f : Failure} (h : w.Judged t baseline a (.pending why))
      (hshort : Shortfall t a why f) : LeavesPending w t baseline (.ok a) (.failed f)

section Answers

variable {w : Watcher} {t : Task} {baseline : String} {x : Sighting} {o : Outcome}

theorem Judged.judge_eq {a : Application} {v : Verdict} (h : w.Judged t baseline a v) :
    judge w.options t.images baseline a.observation = v := judge_of_classified h.verdict

theorem reading_of_decides (h : w.Decides t baseline x o) : w.reading t baseline x = (true, o) := by
  cases h with
  | error e => rfl
  | fireAndForget h =>
    rw [reading, h]
    rfl
  | deployed h =>
    rw [reading, h.watched, h.judge_eq]
    rfl
  | regressed h hreport =>
    rw [reading, h.watched, h.judge_eq, HealthReport.describes_iff.mp hreport]
    rfl

theorem reading_of_leavesPending (h : w.LeavesPending t baseline x o) :
    w.reading t baseline x = (false, o) := by
  cases h with
  | pending h hshort =>
    rw [reading, h.watched, h.judge_eq, ← exhausted_of_shortfall hshort]
    rfl

/-- Every answer ends the polls or leaves the rollout pending. -/
theorem decides_or_leavesPending (w : Watcher) (t : Task) (baseline : String) (x : Sighting) :
    ∃ o, w.Decides t baseline x o ∨ w.LeavesPending t baseline x o := by
  cases x with
  | error e => exact ⟨_, .inl (.error e)⟩
  | ok a =>
    cases hforget : a.watch.fireAndForget with
    | true => exact ⟨_, .inl (.fireAndForget hforget)⟩
    | false =>
      obtain ⟨v, hv⟩ := exists_classified w.options t.images baseline
        ⟨a.state.images, a.state.sync, a.state.health.status⟩
      have h : w.Judged t baseline a v := ⟨hforget, hv⟩
      cases v with
      | deployed => exact ⟨_, .inl (.deployed h)⟩
      | regressed => exact ⟨_, .inl (.regressed h (HealthReport.describes_iff.mpr rfl))⟩
      | pending why => exact ⟨_, .inr (.pending h (shortfall_exhausted t a why))⟩

theorem decides_iff : w.Decides t baseline x o ↔ w.reading t baseline x = (true, o) := by
  refine ⟨reading_of_decides, fun h => ?_⟩
  obtain ⟨o', hdecides | hpending⟩ := w.decides_or_leavesPending t baseline x
  · obtain rfl := (Prod.mk.inj ((reading_of_decides hdecides).symm.trans h)).2
    exact hdecides
  · cases (reading_of_leavesPending hpending).symm.trans h

theorem leavesPending_iff : w.LeavesPending t baseline x o ↔ w.reading t baseline x = (false, o) := by
  refine ⟨reading_of_leavesPending, fun h => ?_⟩
  obtain ⟨o', hdecides | hpending⟩ := w.decides_or_leavesPending t baseline x
  · cases (reading_of_decides hdecides).symm.trans h
  · obtain rfl := (Prod.mk.inj ((reading_of_leavesPending hpending).symm.trans h)).2
    exact hpending

theorem exists_leavesPending_iff :
    (∃ o, w.LeavesPending t baseline x o) ↔ (w.reading t baseline x).1 = false := by
  constructor
  · rintro ⟨o, h⟩
    rw [reading_of_leavesPending h]
  · exact fun h => ⟨_, leavesPending_iff.mpr (Prod.ext h rfl)⟩

end Answers

/-! ## The ways to end -/

/-- The most polls that an observation makes after its first answer. -/
def mostPolls (w : Watcher) (t : Task) : Nat := max 1 (w.poll.forTimeout t.timeout).attempts.toNat

/-- How the rollout of a task ends, given all answers of the control plane and what comes of the update of
overrides: the outcome, and the number of polls after the first answer. The baseline is that of the first
answer. -/
inductive Ends (w : Watcher) (t : Task) (script : Nat → Sighting)
    (updated : Application → Except GitOpsError Unit) : Outcome → Nat → Prop
  | unanswered {e : ControlPlaneError} (hfirst : script 0 = .error e) :
      Ends w t script updated (.failed (.controlPlane e)) 0
  | notUpdated {start : Application} {e : GitOpsError} (hfirst : script 0 = .ok start)
      (hupdated : updated start = .error e) : Ends w t script updated (.failed (.gitOps e.message)) 0
  /-- The first answer that ends the polls. -/
  | decided {start : Application} {k : Nat} {o : Outcome} (hfirst : script 0 = .ok start)
      (hupdated : updated start = .ok ()) (hk : k < w.mostPolls t)
      (hpending : ∀ j < k, ∃ o', w.LeavesPending t (fingerprint start.state.images) (script (j + 1)) o')
      (hlast : w.Decides t (fingerprint start.state.images) (script (k + 1)) o) :
      Ends w t script updated o (k + 1)
  /-- No answer ends the polls; the last of them makes the outcome. -/
  | usedUp {start : Application} {o : Outcome} (hfirst : script 0 = .ok start)
      (hupdated : updated start = .ok ())
      (hpending : ∀ j < w.mostPolls t,
        ∃ o', w.LeavesPending t (fingerprint start.state.images) (script (j + 1)) o')
      (hlast : w.LeavesPending t (fingerprint start.state.images) (script (w.mostPolls t)) o) :
      Ends w t script updated o (w.mostPolls t)

section Ways

variable {w : Watcher} {t : Task} {script : Nat → Sighting}
  {updated : Application → Except GitOpsError Unit} {o : Outcome} {n : Nat}

theorem mostPolls_eq : w.mostPolls t = (w.poll.forTimeout t.timeout).count := Nat.max_comm ..

theorem mostPolls_pos : 0 < w.mostPolls t := Nat.le_max_left ..

theorem foretold_of_updated {start : Application} (hfirst : script 0 = .ok start)
    (hupdated : updated start = .ok ()) : w.foretold t script updated =
      w.polled t (fingerprint start.state.images) (w.mostPolls t) fun i => script (i + 1) := by
  rw [foretold, hfirst]
  dsimp only
  rw [hupdated, mostPolls_eq]
  rfl

theorem Ends.foretold_eq (h : w.Ends t script updated o n) : w.foretold t script updated = ⟨o, n⟩ := by
  cases h with
  | unanswered hfirst => rw [foretold, hfirst]
  | notUpdated hfirst hupdated =>
    rw [foretold, hfirst]
    dsimp only
    rw [hupdated]
  | decided hfirst hupdated hk hpending hlast =>
    rw [foretold_of_updated hfirst hupdated, polled]
    have hread := reading_of_decides hlast
    rw [lastPoll_of_first hk (by rw [hread]) fun j hj => exists_leavesPending_iff.mp (hpending j hj),
      hread]
  | usedUp hfirst hupdated hpending hlast =>
    rw [foretold_of_updated hfirst hupdated, polled,
      lastPoll_of_none fun j hj => exists_leavesPending_iff.mp (hpending j hj),
      Nat.sub_add_cancel mostPolls_pos, reading_of_leavesPending hlast]

/-- What is foretold is one of the ways to end. -/
theorem ends_foretold (w : Watcher) (t : Task) (script : Nat → Sighting)
    (updated : Application → Except GitOpsError Unit) :
    w.Ends t script updated (w.foretold t script updated).outcome (w.foretold t script updated).polls := by
  cases hfirst : script 0 with
  | error e =>
    rw [foretold, hfirst]
    exact .unanswered hfirst
  | ok start =>
    cases hupdated : updated start with
    | error e =>
      rw [foretold, hfirst]
      dsimp only
      rw [hupdated]
      exact .notUpdated hfirst hupdated
    | ok _ =>
      rw [foretold_of_updated hfirst hupdated]
      have hlast := lastPoll_spec (w.mostPolls t) fun i =>
        (w.reading t (fingerprint start.state.images) (script (i + 1))).1
      unfold polled
      generalize lastPoll (w.mostPolls t) _ = k at hlast ⊢
      rcases hlast with ⟨hk, hends, hbefore⟩ | ⟨rfl, hnone⟩
      · exact .decided hfirst hupdated hk (fun j hj => exists_leavesPending_iff.mpr (hbefore j hj))
          (decides_iff.mpr (Prod.ext hends rfl))
      · have hpolls : w.mostPolls t - 1 + 1 = w.mostPolls t := Nat.sub_add_cancel mostPolls_pos
        have hpending := hnone (w.mostPolls t - 1) (Nat.sub_one_lt_of_lt mostPolls_pos)
        dsimp only at hpending ⊢
        rw [hpolls] at hpending ⊢
        exact .usedUp hfirst hupdated (fun j hj => exists_leavesPending_iff.mpr (hnone j hj))
          (leavesPending_iff.mpr (Prod.ext hpending rfl))

/-- **There is one way to end.** -/
theorem ends_iff : w.Ends t script updated o n ↔ w.foretold t script updated = ⟨o, n⟩ := by
  refine ⟨Ends.foretold_eq, fun h => ?_⟩
  have hends := w.ends_foretold t script updated
  rwa [h] at hends

/-- A rollout is deployed because the last answer says so. -/
theorem Ends.deployed (h : w.Ends t script updated .deployed n) : ∃ start last,
    script 0 = .ok start ∧ script n = .ok last ∧ (last.watch.fireAndForget = true ∨
      w.Judged t (fingerprint start.state.images) last .deployed) := by
  cases h with
  | decided hfirst hupdated hk hpending hlast =>
    generalize hx : script (_ + 1) = x at hlast ⊢
    cases hlast with
    | fireAndForget h => exact ⟨_, _, hfirst, rfl, .inl h⟩
    | deployed h => exact ⟨_, _, hfirst, rfl, .inr h⟩
  | usedUp hfirst hupdated hpending hlast =>
    generalize script (w.mostPolls t) = x at hlast
    cases hlast

end Ways

/-! ## Observations -/

/-- **An observation ends as its answers say.** It asks once for the application before the update of
overrides, and as often after it as the way to end has polls, with a delay between them; there is no other
way to end with these answers. A rollout is deployed because the last answer says so and not because the
polls are used up, and of all answers the first and the last one alone count. -/
theorem observe_ends {σ : Type} (w : Watcher) (t : Task) (s : Surroundings σ) (script : Nat → Sighting)
    (v : σ) :
    let fetched := (s.answer (.application t.app) v).2
    let updated := fun a => ((w.updateOverrides a t).run s fetched).1
    let ended := (w.observe t).run (s.answering script) (v, 0)
    ∃ polls, ended.2.2 = polls + 1 ∧ w.Ends t script updated ended.1 polls ∧
      (∀ o n, w.Ends t script updated o n → o = ended.1 ∧ n = polls) ∧
      (w.observe t).requests (s.answering script) (v, 0) =
        .application t.app :: (w.updateRequests t s fetched (script 0) ++
          pollRequests t.app w.poll.delay polls) ∧
      (ended.1 = .deployed → ∃ start last, script 0 = .ok start ∧ script polls = .ok last ∧
        (last.watch.fireAndForget = true ∨
          w.Judged t (fingerprint start.state.images) last .deployed)) ∧
      ∀ script' : Nat → Sighting, script' 0 = script 0 → script' polls = script polls →
        ((w.observe t).run (s.answering script') (v, 0)).2.2 = ended.2.2 →
        ((w.observe t).run (s.answering script') (v, 0)).1 = ended.1 := by
  intro fetched updated ended
  obtain ⟨houtcome, hcount, hrequests⟩ := w.observe_run t s script v
  have hends : w.Ends t script updated ended.1 (w.foretold t script updated).polls :=
    houtcome ▸ w.ends_foretold t script updated
  refine ⟨_, hcount, hends, fun o n h => ?_, hrequests, fun h => (h ▸ hends).deployed, ?_⟩
  · have hended : ended.1 = (w.foretold t script updated).outcome := houtcome
    rw [hended, ends_iff.mp h]
    exact ⟨rfl, rfl⟩
  · intro script' hfirst hlast hsame
    obtain ⟨houtcome', hcount', -⟩ := w.observe_run t s script' v
    have hpolls := hcount'.symm.trans (hsame.trans hcount)
    exact (houtcome'.trans (w.foretold_congr t hfirst (Nat.add_right_cancel hpolls) hlast)).trans
      houtcome.symm

/-! ## Two rollouts that fail -/

open Simulation

/-- A task for one image, with a timeout that gives two polls. -/
def nginxTask : Task :=
  Submission.toTask { app := "demo", images := [⟨"demo/nginx", "v1"⟩], timeout := 15 } .nil (.ofNanos 0)

/-- An application that runs the image with a tag; its service is always healthy. -/
def nginxAt (tag sync health : String) : Application where
  state :=
    { sync := sync
      health := ⟨health, some "1 of 2 updated"⟩
      images := ["demo/nginx:" ++ tag]
      resources :=
        [{ kind := "Deployment", name := "demo", health := some ⟨health, some "waiting"⟩ },
          { kind := "Service", name := "demo", health := some ⟨"Healthy", none⟩ }] }

/-- The new image comes, is synced late and does not get healthy. -/
def slowScript : Nat → Sighting
  | 0 => .ok (nginxAt "v0" "Synced" "Healthy")
  | 1 => .ok (nginxAt "v1" "OutOfSync" "Healthy")
  | _ => .ok (nginxAt "v1" "Synced" "Progressing")

/-- The new image comes and breaks. -/
def brokenScript : Nat → Sighting
  | 0 => .ok (nginxAt "v0" "Synced" "Healthy")
  | _ => .ok (nginxAt "v1" "Synced" "Degraded")

theorem available_nginx : Available {} nginxTask.images ["demo/nginx:v1"] := by
  intro i hi
  obtain rfl := List.mem_singleton.mp hi
  exact .inl (by decide)

theorem fingerprint_nginx_ne : fingerprint ["demo/nginx:v1"] ≠ fingerprint ["demo/nginx:v0"] := by
  rw [fingerprint, fingerprint, preimage, preimage, List.mergeSort_singleton, List.mergeSort_singleton]
  decide +kernel

theorem mostPolls_nginx : ({} : Watcher).mostPolls nginxTask = 2 := by decide +kernel

theorem slowScript_ends : ({} : Watcher).Ends nginxTask slowScript (fun _ => .ok ())
    (.failed (.notHealthy ⟨"Synced", "Progressing", some "1 of 2 updated",
      ["Deployment(demo) Progressing with message waiting"]⟩)) 2 := by
  have hlate (baseline : String) : ∃ o, ({} : Watcher).LeavesPending nginxTask baseline
      (.ok (nginxAt "v1" "OutOfSync" "Healthy")) o :=
    ⟨_, .pending ⟨rfl, .notSynced available_nginx (by decide)⟩
      (.notSynced (SyncReport.describes_iff.mpr rfl))⟩
  have hunhealthy (baseline : String) : ({} : Watcher).LeavesPending nginxTask baseline
      (.ok (nginxAt "v1" "Synced" "Progressing")) (.failed (.notHealthy ⟨"Synced", "Progressing",
        some "1 of 2 updated", ["Deployment(demo) Progressing with message waiting"]⟩)) :=
    .pending ⟨rfl, .notHealthy available_nginx rfl (by simp [CountsAsHealthy, nginxAt]) (by decide)⟩
      (.notHealthy (HealthReport.describes_iff.mpr (by decide +kernel)))
  rw [← mostPolls_nginx]
  refine .usedUp (rfl : slowScript 0 = .ok (nginxAt "v0" "Synced" "Healthy")) rfl (fun j hj => ?_) ?_
  · rw [mostPolls_nginx] at hj
    obtain rfl | rfl : j = 0 ∨ j = 1 := by omega
    · exact hlate _
    · exact ⟨_, hunhealthy _⟩
  · rw [mostPolls_nginx]
    exact hunhealthy _

theorem brokenScript_ends : ({} : Watcher).Ends nginxTask brokenScript (fun _ => .ok ())
    (.failed (.degraded ⟨"Synced", "Degraded", some "1 of 2 updated",
      ["Deployment(demo) Degraded with message waiting"]⟩)) 1 :=
  .decided (rfl : brokenScript 0 = .ok (nginxAt "v0" "Synced" "Healthy")) rfl
    (mostPolls_nginx ▸ Nat.zero_lt_two) (fun j hj => absurd hj (Nat.not_lt_zero j))
    (.regressed ⟨rfl, .regressed available_nginx rfl rfl fingerprint_nginx_ne⟩
      (HealthReport.describes_iff.mpr (by decide +kernel)))

theorem observe_ends_unfinished :
    let ended := fun script =>
      (({} : Watcher).observe nginxTask).run (World.surroundings.answering script) ({ now := 0 }, 0)
    (ended slowScript).1 = .failed (.notHealthy ⟨"Synced", "Progressing", some "1 of 2 updated",
      ["Deployment(demo) Progressing with message waiting"]⟩) ∧
    (ended slowScript).2.2 = 3 ∧
    (({} : Watcher).observe nginxTask).requests (World.surroundings.answering slowScript)
      ({ now := 0 }, 0) =
        [.application "demo", .application "demo", .sleep 15000, .application "demo"] ∧
    (ended brokenScript).1 = .failed (.degraded ⟨"Synced", "Degraded", some "1 of 2 updated",
      ["Deployment(demo) Degraded with message waiting"]⟩) ∧
    (ended brokenScript).2.2 = 2 := by
  intro ended
  obtain ⟨polls, hcount, -, hunique, hasked, -⟩ :=
    observe_ends {} nginxTask World.surroundings slowScript { now := 0 }
  obtain ⟨polls', hcount', -, hunique', -⟩ :=
    observe_ends {} nginxTask World.surroundings brokenScript { now := 0 }
  obtain ⟨hslow, rfl⟩ := hunique _ _ slowScript_ends
  obtain ⟨hbroken, rfl⟩ := hunique' _ _ brokenScript_ends
  exact ⟨hslow.symm, hcount, hasked, hbroken.symm, hcount'⟩

end Watcher

end DeployWatch
