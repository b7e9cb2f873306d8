import DeployWatch.Proofs.Store.Simulated

/-!
# Status and reason of stored tasks

* `Failure.reason_ne_empty`, `Failure.reason_ne_aborted`: reasons of failures, whatever texts they carry;
* `Failure.status_eq_appNotFound`, `Failure.status_eq_unavailable`: what tells the two apart from others;
* `ObservedError`, `Accounted`: what a stored task says about its observation;
* **`stored_reason_accounts_for_status`**: status and reason fit together in every store that
  submissions, observations and sweeps lead to.
-/

namespace DeployWatch

/-! ## Reasons of failures -/

namespace Failure

theorem status_isFailure (f : Failure) :
    f.status ≠ .inProgress ∧ f.status ≠ .deployed ∧ f.status ≠ .aborted := by
  cases f with
  | controlPlane e => cases e <;> exact ⟨nofun, nofun, nofun⟩
  | _ => exact ⟨nofun, nofun, nofun⟩

theorem status_eq_appNotFound {f : Failure} (h : f.status = .appNotFound) :
    ∃ text, f = .controlPlane (.notFound text) := by
  cases f with
  | controlPlane e =>
    cases e with
    | notFound text => exact ⟨text, rfl⟩
    | _ => cases h
  | _ => cases h

theorem status_eq_unavailable {f : Failure} (h : f.status = .unavailable) :
    ∃ text, f = .controlPlane (.connectionRefused text) := by
  cases f with
  | controlPlane e =>
    cases e with
    | connectionRefused text => exact ⟨text, rfl⟩
    | _ => cases h
  | _ => cases h

theorem head_append {a b : String} {x : Char} (h : a.toList.head? = some x) :
    (a ++ b).toList.head? = some x := by
  rw [String.toList_append, List.head?_append, h]
  rfl

/-- The first letter of a reason does not depend on the texts in it. -/
theorem head_reason (f : Failure) :
    f.reason.toList.head? = some 'A' ∨ f.reason.toList.head? = some 'f' := by
  have hheader : ∀ status, (failedHeader status).toList.head? = some 'A' :=
    fun _ => head_append (head_append rfl)
  cases f with
  | controlPlane e => cases e <;> exact .inl (head_append rfl)
  | gitOps m => exact .inr (head_append rfl)
  | notAvailable current expected =>
    exact .inl (head_append (head_append (head_append (head_append (hheader _)))))
  | notSynced r => exact .inl (head_append (hheader _))
  | notHealthy r => exact .inl (head_append (hheader _))
  | degraded r => exact .inl (head_append (head_append (hheader _)))

theorem reason_ne_empty (f : Failure) : f.reason ≠ "" := by
  intro h
  have hhead := f.head_reason
  rw [h] at hhead
  revert hhead
  decide

theorem reason_ne_aborted (f : Failure) : f.reason ≠ abortedReason := by
  intro h
  have hhead := f.head_reason
  rw [h] at hhead
  revert hhead
  decide

end Failure

/-! ## Stored tasks -/

/-- The observation of a task was given an error by the control plane. The task that was admitted is the
stored one, as it was then, unless its identifier was given out again. -/
def ObservedError (H : List (Nat × Exchange)) (t : Task) (e : ControlPlaneError) : Prop :=
  ∃ n s u, (n, ⟨.addTask s, .ok u⟩) ∈ H ∧ u.id = t.id ∧ (n, ⟨.application u.app, .error e⟩) ∈ H ∧
    (IssuedOnce H → u = t.asAdmitted)

/-- Status and reason of a stored task fit together, and fit what its observation was told. -/
structure Accounted (H : List (Nat × Exchange)) (t : Task) : Prop where
  reason_eq_empty : t.reason = "" ↔ t.status = .inProgress ∨ t.status = .deployed
  reason_eq_aborted : t.reason = abortedReason ↔ t.status = .aborted
  appNotFound : t.status = .appNotFound → ∃ text, ObservedError H t (.notFound text)
  unavailable : t.status = .unavailable → ∃ text, ObservedError H t (.connectionRefused text)

section Accounted

variable {H : List (Nat × Exchange)} {t : Task}

theorem Accounted.of_settled (hstatus : t.status = .inProgress ∨ t.status = .deployed)
    (hreason : t.reason = "") : Accounted H t := by
  have hne : "" ≠ abortedReason := by decide
  rcases hstatus with hstatus | hstatus <;>
    exact ⟨by simp [hstatus, hreason], by simp [hstatus, hreason, hne], by simp [hstatus],
      by simp [hstatus]⟩

theorem Accounted.of_aborted (hstatus : t.status = .aborted) (hreason : t.reason = abortedReason) :
    Accounted H t := by
  have hne : abortedReason ≠ "" := by decide
  exact ⟨by simp [hstatus, hreason, hne], by simp [hstatus, hreason], by simp [hstatus],
    by simp [hstatus]⟩

theorem Accounted.of_outcome {o : Outcome} (ho : o.stored = (t.status, t.reason))
    (herror : ∀ e, o = .failed (.controlPlane e) → ObservedError H t e) : Accounted H t := by
  cases o with
  | deployed =>
    obtain ⟨hstatus, hreason⟩ := Prod.mk.inj ho
    exact .of_settled (.inr hstatus.symm) hreason.symm
  | failed f =>
    obtain ⟨hstatus, hreason⟩ := Prod.mk.inj ho
    obtain ⟨hprogress, hdeployed, haborted⟩ := f.status_isFailure
    rw [hstatus] at hprogress hdeployed haborted
    constructor
    · rw [← hreason]
      exact iff_of_false f.reason_ne_empty (not_or.mpr ⟨hprogress, hdeployed⟩)
    · rw [← hreason]
      exact iff_of_false f.reason_ne_aborted haborted
    · intro h
      obtain ⟨text, rfl⟩ := Failure.status_eq_appNotFound (hstatus.trans h)
      exact ⟨text, herror _ rfl⟩
    · intro h
      obtain ⟨text, rfl⟩ := Failure.status_eq_unavailable (hstatus.trans h)
      exact ⟨text, herror _ rfl⟩

end Accounted

section Interleavings

variable {σ : Type} {s : Surroundings σ} {store : σ → TaskStore} {jobs : List Job} {w : σ}
  {c : Crew σ Unit} {H : List (Nat × Exchange)} {t : Task}

/-- **Status and reason of every stored task fit together**, in every store that submissions, their
observations and sweeps lead to, however they are interleaved and whatever they are told. -/
theorem stored_reason_accounts_for_status (hkeeps : Keeps s store) (hempty : store w = {})
    (h : Crew.Unfolds s (.ofJobs jobs w) H c) (ht : t ∈ (store c.state).tasks) : Accounted H t := by
  have hreplays := h.replays_of_empty hkeeps hempty
  cases hreplays.standing ht with
  | admitted hstatus hreason => exact .of_settled (.inl hstatus) hreason
  | aborted hstatus hreason => exact .of_aborted hstatus hreason
  | written n hwrite =>
    obtain ⟨sub, u, o, hadd, hid, ho, hfollows, -⟩ := h.status_written hwrite
    refine .of_outcome ho fun e he => ⟨n, sub, u, hadd, hid, Crew.mem_own.mp (hfollows e he), ?_⟩
    -- The stored task was admitted with the same identifier.
    intro hids
    obtain ⟨n', sub', hadmitted⟩ := hreplays.admitted ht
    exact (hids.eq hadd hadmitted hid).2

end Interleavings

open Simulation in
/-- **A task whose application is missing accounts for that.** -/
theorem stored_reason_accounts_for_missing_app : ∃ H c t,
    Crew.Unfolds World.surroundings (.ofJobs
      [.submission {} { app := "demo", images := [⟨"demo/nginx", "v1"⟩] }] { now := 0 }) H c ∧
    t ∈ c.state.store.tasks ∧ t.status = .appNotFound ∧ Accounted H t := by
  let start : Crew World Unit := .ofJobs
    [.submission {} { app := "demo", images := [⟨"demo/nginx", "v1"⟩] }] { now := 0 }
  have hstored : ∃ t ∈ (start.run World.surroundings 20).state.store.tasks,
      t.status = .appNotFound := by decide +kernel
  obtain ⟨t, ht, hstatus⟩ := hstored
  have hrun := Crew.run_unfolds World.surroundings start 20
  exact ⟨_, _, t, hrun, ht, hstatus,
    stored_reason_accounts_for_status World.keeps_store rfl hrun ht⟩

end DeployWatch
