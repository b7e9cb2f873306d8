import DeployWatch.Proofs.Rollout.Writes
import DeployWatch.Proofs.Store.Effects

/-!
# Submissions and sweeps together

* `Job`: a submission with the observation of its rollout, or a series of sweeps;
* `Job.writing`: what a job can have written;
* **`Unfolds.status_written`**: whoever writes the status of a task has admitted it, has observed its
  rollout and writes nothing else;
* `Unfolds.status_written_once`: the status of a task is written once at most.
-/

namespace DeployWatch

open Program (done Leads)

/-- What the service has running. -/
inductive Job where
  /-- The admission of a task and the observation of its rollout, with settings of its own. -/
  | submission (w : Watcher) (s : Submission)
  | sweeps (schedule : SweepSchedule) (times : Nat)

def Job.program : Job → Program Unit
  | submission w s => (w.submit s).bind fun _ => done ()
  | sweeps schedule times => sweepTimes schedule times

/-- Jobs that are all ready to start. -/
def Crew.ofJobs {σ : Type} (jobs : List Job) (w : σ) : Crew σ Unit :=
  .ofPrograms (jobs.map Job.program) w

/-! ## One job -/

/-- What a job with some history can have written. -/
inductive Writing (h : List Exchange) : List Exchange → Prop
  | submission {s : Submission} {es : List Exchange} : SubmissionWrites s h es → Writing h es
  | sweeps {es : List Exchange} : (∀ e ∈ es, ∃ staleness, e.request = .sweep staleness) → Writing h es

theorem Job.writing {job : Job} {h : List Exchange} {q : Program Unit}
    (hjob : job.program.Leads h q) : Writing h (writesIn h) := by
  cases job with
  | submission w s =>
    obtain ⟨p, hsubmit⟩ := Leads.of_bind_done hjob
    exact .submission (Watcher.submit_writes hsubmit)
  | sweeps schedule times =>
    refine .sweeps fun e he => ?_
    obtain ⟨he, hwrites⟩ := List.mem_filter.mp he
    exact (sweepTimes_only schedule times).leads hjob e he hwrites

/-- Who writes a status has admitted the task before, and writes the outcome of its observation. -/
theorem Writing.of_setStatus {h es : List Exchange} {id : Uuid} {status : Status} {reason : String}
    {x : Except StoreError Unit} (hw : Writing h es) (hmem : ⟨.setStatus id status reason, x⟩ ∈ es) :
    ∃ s t o, t.id = id ∧ Outcome.stored o = (status, reason) ∧ o.FollowsFrom t.app h ∧
      es = [⟨.addTask s, .ok t⟩, ⟨.setStatus id status reason, x⟩] := by
  cases hw with
  | sweeps hsweeps =>
    obtain ⟨_, hrequest⟩ := hsweeps _ hmem
    cases hrequest
  | submission hsubmission =>
    cases hsubmission with
    | none => cases hmem
    | refused _ => cases List.mem_singleton.mp hmem
    | stored _ => cases List.mem_singleton.mp hmem
    | ended t o x' hfollows =>
      rcases List.mem_cons.mp hmem with hadd | hset
      · cases hadd
      · cases List.mem_singleton.mp hset
        exact ⟨_, t, o, rfl, rfl, hfollows, rfl⟩

/-! ## All jobs -/

namespace Crew

/-- The exchanges of jobs lead to the store after them. -/
theorem Unfolds.replays_of_empty {σ : Type} {s : Surroundings σ} {store : σ → TaskStore}
    {jobs : List Job} {w : σ} {c : Crew σ Unit} {H : List (Nat × Exchange)} (hkeeps : Keeps s store)
    (hempty : store w = {}) (h : Unfolds s (ofJobs jobs w) H c) : Replays {} H (store c.state) := by
  rw [← hempty]
  exact h.replays hkeeps (tidy_ofPrograms _ w)

variable {σ : Type} {s : Surroundings σ} {jobs : List Job} {w : σ} {c : Crew σ Unit}
  {H : List (Nat × Exchange)} {id : Uuid} {status : Status} {reason : String}
  {x : Except StoreError Unit} {n : Nat}

theorem Unfolds.writing (h : Unfolds s (ofJobs jobs w) H c) {e : Exchange} (he : (n, e) ∈ H) :
    Writing (own n H) (writesIn (own n H)) := by
  obtain ⟨p, q, hp, hleads⟩ := h.path_of_mem he
  rw [List.getElem?_map] at hp
  obtain ⟨job, -, rfl⟩ := Option.map_eq_some_iff.mp hp
  exact Job.writing hleads

/-- **Whoever writes the status of a task** has admitted it and has come to the outcome of its
rollout. -/
theorem Unfolds.status_written (h : Unfolds s (ofJobs jobs w) H c)
    (hmem : (n, ⟨.setStatus id status reason, x⟩) ∈ H) :
    ∃ s t o, (n, ⟨.addTask s, .ok t⟩) ∈ H ∧ t.id = id ∧ Outcome.stored o = (status, reason) ∧
      o.FollowsFrom t.app (own n H) ∧
      writesIn (own n H) = [⟨.addTask s, .ok t⟩, ⟨.setStatus id status reason, x⟩] := by
  obtain ⟨s, t, o, hid, ho, hfollows, hwrites⟩ :=
    (h.writing hmem).of_setStatus (List.mem_filter.mpr ⟨mem_own.mpr hmem, rfl⟩)
  have hadd : (⟨.addTask s, .ok t⟩ : Exchange) ∈ writesIn (own n H) :=
    hwrites ▸ List.mem_cons_self
  exact ⟨s, t, o, mem_own.mp (List.mem_of_mem_filter hadd), hid, ho, hfollows, hwrites⟩

/-- **The status of a task is written once at most**, if no other task has its identifier. -/
theorem Unfolds.status_written_once {H₁ H₂ : List (Nat × Exchange)} {n' : Nat} {status' : Status}
    {reason' : String} {x' : Except StoreError Unit}
    (h : Unfolds s (ofJobs jobs w) (H₁ ++ H₂) c) (hids : IssuedOnce (H₁ ++ H₂))
    (hmem : (n, ⟨.setStatus id status reason, x⟩) ∈ H₁) :
    (n', ⟨.setStatus id status' reason', x'⟩) ∉ H₂ := by
  intro hmem'
  obtain ⟨_, t, _, hadd, hid, -, -, hwrites⟩ := h.status_written (List.mem_append_left H₂ hmem)
  obtain ⟨_, t', _, hadd', hid', -⟩ := h.status_written (List.mem_append_right H₁ hmem')
  obtain ⟨rfl, -⟩ := hids.eq hadd hadd' (hid.trans hid'.symm)
  -- Both writes are among the two writes of one job, of which one is the admission.
  have hset : ∀ {K : List (Nat × Exchange)} {status : Status} {reason : String}
      {x : Except StoreError Unit}, (n, ⟨.setStatus id status reason, x⟩) ∈ K →
      0 < (writesIn (own n K)).countP fun e => e.request matches .setStatus .. := by
    intro K status reason x hK
    exact List.countP_pos_iff.mpr ⟨_, List.mem_filter.mpr ⟨mem_own.mpr hK, rfl⟩, rfl⟩
  have htwo := Nat.add_le_add (hset hmem) (hset hmem')
  rw [← List.countP_append, ← writesIn_append, ← own_append, hwrites] at htwo
  exact absurd htwo (by simp)

end Crew

end DeployWatch
