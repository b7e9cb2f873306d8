import DeployWatch.Daemon
import DeployWatch.Proofs.Program.Paths
import DeployWatch.Proofs.Rollout.LastPoll

/-!
# What submissions and sweeps write

* `Request.writesTasks`, `writesIn`: the requests that change the task store;
* `Outcome.FollowsFrom`: the control plane has given the error of which an outcome tells;
* `Watcher.observe_follows`, `Watcher.observe_only`: paths of an observation, and what it asks for;
* `AdmissionPath`, `admitTask_path`: paths of an admission;
* `SubmissionWrites`, **`Watcher.submit_writes`**: a submission is stored once at most, and the outcome
  of its rollout is written once at most;
* `sweepTimes_only`: sweeps write nothing else.
-/

namespace DeployWatch

open Program (ask done Leads leads_ask leads_bind leads_done)

def Request.writesTasks : Request → Bool
  | .addTask _ | .setStatus .. | .sweep _ => true
  | _ => false

/-- The exchanges of a history that change the task store. -/
def writesIn (h : List Exchange) : List Exchange := h.filter (·.request.writesTasks)

@[simp] theorem writesIn_nil : writesIn [] = [] := rfl

@[simp] theorem writesIn_append (h h' : List Exchange) :
    writesIn (h ++ h') = writesIn h ++ writesIn h' :=
  List.filter_append _ _

theorem writesIn_cons_of_quiet {e : Exchange} (he : e.request.writesTasks = false)
    (h : List Exchange) : writesIn (e :: h) = writesIn h :=
  List.filter_cons_of_neg (by simp [he])

theorem writesIn_of_quiet {h : List Exchange} (hh : ∀ e ∈ h, e.request.writesTasks = false) :
    writesIn h = [] :=
  List.filter_eq_nil_iff.mpr fun e he => by simp [hh e he]

/-! ## Observations -/

/-- The requests of an observation. -/
def Request.isOfObservation : Request → Bool
  | .application _ => true
  | q => q.isOfGit || q.isOfUpdate

/-- If an outcome tells of an error of the control plane, then the control plane has given this error
when it was asked for the application. -/
def Outcome.FollowsFrom (app : String) (h : List Exchange) (o : Outcome) : Prop :=
  ∀ e, o = .failed (.controlPlane e) → ⟨.application app, .error e⟩ ∈ h

namespace Outcome.FollowsFrom

variable {app : String} {h h' : List Exchange} {o : Outcome}

theorem mono (ho : o.FollowsFrom app h) (hsub : ∀ e ∈ h, e ∈ h') : o.FollowsFrom app h' :=
  fun e he => hsub _ (ho e he)

theorem refusal (e : ControlPlaneError) :
    (failed (.controlPlane e)).FollowsFrom app [⟨.application app, .error e⟩] := by
  intro e' he'
  cases he'
  exact List.mem_cons_self

end Outcome.FollowsFrom

namespace Watcher

variable (w : Watcher) (t : Task) {h : List Exchange} {o : Outcome}

theorem assess_follows {baseline : String} {a : Application} (ha : w.assess t baseline a = .inl o) :
    o.FollowsFrom t.app h := by
  intro e he
  subst he
  unfold assess at ha
  split at ha
  · cases ha
  · split at ha <;> cases ha

theorem look_follows {baseline : String} {pending : Pending → Application → Program Outcome}
    (hpending : ∀ why a h', (pending why a).Leads h' (done o) → o.FollowsFrom t.app h')
    (hlook : (w.look t baseline pending).Leads h (done o)) : o.FollowsFrom t.app h := by
  rw [look_eq] at hlook
  rcases leads_ask.mp hlook with ⟨-, hdone⟩ | ⟨x, h', rfl, hrest⟩
  · cases hdone
  · cases x with
    | error e =>
      obtain ⟨rfl, hdone⟩ := leads_done.mp hrest
      cases hdone
      exact .refusal e
    | ok a =>
      dsimp only at hrest
      split at hrest
      · rename_i outcome ha
        obtain ⟨rfl, hdone⟩ := leads_done.mp hrest
        cases hdone
        exact w.assess_follows t ha
      · exact (hpending _ _ _ hrest).mono fun e he => List.mem_cons_of_mem _ he

theorem pollTimes_follows {baseline : String} {left : Nat}
    (hpoll : (w.pollTimes t baseline left).Leads h (done o)) : o.FollowsFrom t.app h := by
  induction left generalizing h with
  | zero =>
    rw [pollTimes_zero] at hpoll
    refine w.look_follows t (fun why a h' hrest => ?_) hpoll
    obtain ⟨rfl, hdone⟩ := leads_done.mp hrest
    intro e he
    subst he
    cases why <;> cases hdone
  | succ left ih =>
    rw [pollTimes_succ] at hpoll
    refine w.look_follows t (fun why a h' hrest => ?_) hpoll
    rcases leads_ask.mp hrest with ⟨-, hdone⟩ | ⟨x, h'', rfl, hlater⟩
    · cases hdone
    · exact (ih hlater).mono fun e he => List.mem_cons_of_mem _ he

/-- **An observation that ends with an error of the control plane has been given this error.** -/
theorem observe_follows (hobserve : (w.observe t).Leads h (done o)) : o.FollowsFrom t.app h := by
  rw [observe_eq] at hobserve
  rcases leads_ask.mp hobserve with ⟨-, hdone⟩ | ⟨x, h', rfl, hrest⟩
  · cases hdone
  · cases x with
    | error e =>
      obtain ⟨rfl, hdone⟩ := leads_done.mp hrest
      cases hdone
      exact .refusal e
    | ok a =>
      rcases leads_bind hrest with ⟨r, next, -, hdone⟩ | ⟨result, h₁, h₂, rfl, -, hpoll⟩
      · cases hdone
      · cases result with
        | error e =>
          obtain ⟨rfl, hdone⟩ := leads_done.mp hpoll
          intro e he
          subst he
          cases hdone
        | ok _ =>
          refine (w.pollTimes_follows t hpoll).mono fun e he => ?_
          exact List.mem_cons_of_mem _ (List.mem_append_right _ he)

section Only

variable {P : Request → Prop} (hP : ∀ q : Request, q.isOfObservation → P q)

include hP

theorem look_only {baseline : String} {pending : Pending → Application → Program Outcome}
    (hpending : ∀ why a, (pending why a).Only P) : (w.look t baseline pending).Only P := by
  rw [look_eq]
  refine ⟨hP _ rfl, fun x => ?_⟩
  cases x with
  | error e => trivial
  | ok a =>
    dsimp only
    split
    · trivial
    · exact hpending _ _

theorem pollTimes_only (baseline : String) (left : Nat) : (w.pollTimes t baseline left).Only P := by
  induction left with
  | zero => exact w.look_only t hP fun _ _ => trivial
  | succ left ih => exact w.look_only t hP fun _ _ => ⟨hP _ rfl, fun _ => ih⟩

/-- **What an observation asks for.** -/
theorem observe_only : (w.observe t).Only P := by
  have hgit : ∀ q : Request, q.isOfGit → P q := fun q hq =>
    hP q (by cases q <;> first | rfl | exact absurd hq Bool.false_ne_true)
  have hupdate : ∀ q : Request, q.isOfUpdate → P q := fun q hq =>
    hP q (by cases q <;> first | rfl | exact absurd hq Bool.false_ne_true)
  rw [observe_eq]
  refine ⟨hP _ rfl, fun x => ?_⟩
  cases x with
  | error e => trivial
  | ok a =>
    refine (w.updateOverrides_only hgit hupdate a t).bind fun result => ?_
    cases result with
    | error e => trivial
    | ok _ => exact w.pollTimes_only t hP _ _

end Only

/-- An observation writes nothing. -/
theorem observe_quiet : (w.observe t).Only (·.writesTasks = false) :=
  w.observe_only t fun q hq => by cases q <;> first | rfl | exact absurd hq Bool.false_ne_true

/-! ## Watches -/

/-- What a watch does once the rollout has ended. -/
def report (o : Outcome) : Program Unit :=
  ask (.record (outcomeMetric t.app o)) fun _ =>
    ask (.setStatus t.id o.stored.1 o.stored.2) fun _ =>
      ask (.announce { t with status := o.stored.1, reason := o.stored.2 }) fun _ =>
        ask (.record .left) fun _ => done ()

theorem watch_eq : w.watch t = ask (.record .entered) fun _ => ask (.announce t) fun _ =>
    (w.observe t).bind (report t) := rfl

theorem report_writes {q : Program Unit} (hreport : (report t o).Leads h q) :
    writesIn h = [] ∨ ∃ x, writesIn h = [⟨.setStatus t.id o.stored.1 o.stored.2, x⟩] := by
  rcases leads_ask.mp hreport with ⟨rfl, -⟩ | ⟨_, h₁, rfl, hset⟩
  · exact .inl rfl
  rcases leads_ask.mp hset with ⟨rfl, -⟩ | ⟨x, h₂, rfl, hrest⟩
  · exact .inl rfl
  have hquiet : (ask (.announce { t with status := o.stored.1, reason := o.stored.2 }) fun _ =>
      ask (.record .left) fun _ => done ()).Only (·.writesTasks = false) :=
    ⟨rfl, fun _ => ⟨rfl, fun _ => trivial⟩⟩
  refine .inr ⟨x, ?_⟩
  rw [writesIn_cons_of_quiet rfl]
  show _ :: writesIn h₂ = _
  rw [writesIn_of_quiet (hquiet.leads hrest)]

/-- A watch writes one status at most, which is that of the outcome of its observation. -/
theorem watch_writes {q : Program Unit} (hwatch : (w.watch t).Leads h q) :
    writesIn h = [] ∨ ∃ o x, Outcome.FollowsFrom t.app h o ∧
      writesIn h = [⟨.setStatus t.id o.stored.1 o.stored.2, x⟩] := by
  rw [watch_eq] at hwatch
  rcases leads_ask.mp hwatch with ⟨rfl, -⟩ | ⟨_, h₁, rfl, hannounce⟩
  · exact .inl rfl
  rw [writesIn_cons_of_quiet rfl]
  rcases leads_ask.mp hannounce with ⟨rfl, -⟩ | ⟨_, h₂, rfl, hobserve⟩
  · exact .inl rfl
  rw [writesIn_cons_of_quiet rfl]
  rcases leads_bind hobserve with ⟨_, _, hobserve, -⟩ | ⟨o, h₃, h₄, rfl, hobserve, hreport⟩
  · exact .inl (writesIn_of_quiet ((w.observe_quiet t).leads hobserve))
  rw [writesIn_append, writesIn_of_quiet ((w.observe_quiet t).leads hobserve), List.nil_append]
  rcases report_writes t hreport with hnone | ⟨x, hx⟩
  · exact .inl hnone
  · refine .inr ⟨o, x, (w.observe_follows t hobserve).mono fun e he => ?_, hx⟩
    exact List.mem_cons_of_mem _ (List.mem_cons_of_mem _ (List.mem_append_left _ he))

end Watcher

/-! ## Submissions -/

/-- What is done with a submission in good health. -/
def admitHealthy (s : Submission) : Program (Except AdmissionError Task) :=
  match s.check with
  | .error e => ask (.audit (.rejected s.app s.author e.message)) fun _ => done (.error (.invalid e))
  | .ok () => ask (.addTask s) fun
    | .error e => done (.error (.store e))
    | .ok t => ask (.record (.processed t.app)) fun _ => done (.ok t)

theorem admitTask_eq (s : Submission) : admitTask s = checkHealth.bind fun
    | .error e => done (.error (.unhealthy e))
    | .ok () => admitHealthy s := rfl

/-- The requests of an admission before it stores, and of one that does not store. -/
def Request.isOfCheck : Request → Bool
  | .session | .storeReady | .audit _ | .record (.unavailable _) => true
  | _ => false

theorem Request.writesTasks_of_isOfCheck {q : Request} (hq : q.isOfCheck) : q.writesTasks = false := by
  cases q <;> first | rfl | exact absurd hq Bool.false_ne_true

theorem checkHealth_only : checkHealth.Only (·.isOfCheck) :=
  ⟨rfl, fun _ => ⟨rfl, fun _ => ⟨rfl, fun _ => trivial⟩⟩⟩

/-- How far an admission has come. -/
inductive AdmissionPath (s : Submission) :
    List Exchange → Program (Except AdmissionError Task) → Prop
  /-- It has not asked the store to take the submission. -/
  | unstored {h : List Exchange} {q : Program (Except AdmissionError Task)} :
    (∀ e ∈ h, e.request.isOfCheck) → (∀ t, q ≠ done (.ok t)) → AdmissionPath s h q
  /-- The store has refused the submission. -/
  | refused {h : List Exchange} (e : StoreError) : (∀ e ∈ h, e.request.isOfCheck) →
    AdmissionPath s (h ++ [⟨.addTask s, .error e⟩]) (done (.error (.store e)))
  /-- The store has taken the submission, and it is not counted yet. -/
  | stored {h : List Exchange} (t : Task) : (∀ e ∈ h, e.request.isOfCheck) →
    AdmissionPath s (h ++ [⟨.addTask s, .ok t⟩]) (ask (.record (.processed t.app)) fun _ => done (.ok t))
  | admitted {h : List Exchange} (t : Task) : (∀ e ∈ h, e.request.isOfCheck) →
    AdmissionPath s (h ++ [⟨.addTask s, .ok t⟩, ⟨.record (.processed t.app), ()⟩]) (done (.ok t))

theorem admitTask_path {s : Submission} {h : List Exchange}
    {q : Program (Except AdmissionError Task)} (hadmission : (admitTask s).Leads h q) :
    AdmissionPath s h q := by
  rw [admitTask_eq] at hadmission
  rcases leads_bind hadmission with ⟨_, _, hcheck, rfl⟩ | ⟨health, h₁, h₂, rfl, hcheck, hrest⟩
  · exact .unstored (checkHealth_only.leads hcheck) nofun
  have hchecked := checkHealth_only.leads hcheck
  cases health with
  | error e =>
    obtain ⟨rfl, rfl⟩ := leads_done.mp hrest
    exact .unstored (by simpa using hchecked) nofun
  | ok _ =>
    change (admitHealthy s).Leads h₂ q at hrest
    unfold admitHealthy at hrest
    split at hrest
    · rcases leads_ask.mp hrest with ⟨rfl, rfl⟩ | ⟨_, h₃, rfl, hend⟩
      · exact .unstored (by simpa using hchecked) nofun
      · obtain ⟨rfl, rfl⟩ := leads_done.mp hend
        refine .unstored (fun e he => ?_) nofun
        rcases List.mem_append.mp he with he | he
        · exact hchecked e he
        · rw [List.mem_singleton.mp he]
          rfl
    · rcases leads_ask.mp hrest with ⟨rfl, rfl⟩ | ⟨x, h₃, rfl, hend⟩
      · exact .unstored (by simpa using hchecked) nofun
      cases x with
      | error e =>
        obtain ⟨rfl, rfl⟩ := leads_done.mp hend
        exact .refused e hchecked
      | ok t =>
        rcases leads_ask.mp hend with ⟨rfl, rfl⟩ | ⟨_, h₄, rfl, hdone⟩
        · exact .stored t hchecked
        · obtain ⟨rfl, rfl⟩ := leads_done.mp hdone
          exact .admitted t hchecked

/-- Admission stores one task at most, and ends with the task that it has stored. -/
theorem admitTask_writes {s : Submission} {h : List Exchange}
    {q : Program (Except AdmissionError Task)} (hadmission : (admitTask s).Leads h q) :
    (∃ t, writesIn h = [⟨.addTask s, .ok t⟩] ∧ ∀ a, q = done a → a = .ok t) ∨
      (writesIn h = [] ∨ ∃ e, writesIn h = [⟨.addTask s, .error e⟩]) ∧
        ∀ t, q ≠ done (.ok t) := by
  have hquiet {h : List Exchange} (hchecked : ∀ e ∈ h, e.request.isOfCheck) : writesIn h = [] :=
    writesIn_of_quiet fun e he => Request.writesTasks_of_isOfCheck (hchecked e he)
  cases admitTask_path hadmission with
  | unstored hchecked hq => exact .inr ⟨.inl (hquiet hchecked), hq⟩
  | refused e hchecked =>
    refine .inr ⟨.inr ⟨e, ?_⟩, nofun⟩
    rw [writesIn_append, hquiet hchecked]
    rfl
  | stored t hchecked =>
    refine .inl ⟨t, ?_, nofun⟩
    rw [writesIn_append, hquiet hchecked]
    rfl
  | admitted t hchecked =>
    refine .inl ⟨t, ?_, fun a ha => ?_⟩
    · rw [writesIn_append, hquiet hchecked]
      rfl
    · cases ha
      rfl

/-- What a submission can have written: nothing, the task that was refused or stored, and after that the
outcome of its rollout. -/
inductive SubmissionWrites (s : Submission) (h : List Exchange) : List Exchange → Prop
  | none : SubmissionWrites s h []
  | refused (e : StoreError) : SubmissionWrites s h [⟨.addTask s, .error e⟩]
  | stored (t : Task) : SubmissionWrites s h [⟨.addTask s, .ok t⟩]
  | ended (t : Task) (o : Outcome) (x : Except StoreError Unit) : o.FollowsFrom t.app h →
    SubmissionWrites s h
      [⟨.addTask s, .ok t⟩, ⟨.setStatus t.id o.stored.1 o.stored.2, x⟩]

namespace Watcher

theorem submit_eq (w : Watcher) (s : Submission) : w.submit s = (admitTask s).bind fun
    | .error e => done (.error e)
    | .ok t => (w.watch t).bind fun _ => done (.ok t) := rfl

/-- **A submission is stored once at most, and the outcome of its rollout is written once at most.** -/
theorem submit_writes {w : Watcher} {s : Submission} {h : List Exchange}
    {q : Program (Except AdmissionError Task)} (hsubmit : (w.submit s).Leads h q) :
    SubmissionWrites s h (writesIn h) := by
  rw [submit_eq] at hsubmit
  rcases leads_bind hsubmit with ⟨_, _, hadmission, -⟩ | ⟨result, h₁, h₂, rfl, hadmission, hrest⟩
  · rcases admitTask_writes hadmission with ⟨t, hw, -⟩ | ⟨hw | ⟨e, hw⟩, -⟩
    · exact hw ▸ .stored t
    · exact hw ▸ .none
    · exact hw ▸ .refused e
  rw [writesIn_append]
  rcases admitTask_writes hadmission with ⟨t, hw, hresult⟩ | ⟨hw, hresult⟩
  · obtain rfl := hresult result rfl
    rw [hw]
    obtain ⟨p, hwatch⟩ := Leads.of_bind_done hrest
    rcases w.watch_writes t hwatch with hnone | ⟨o, x, hfollows, hset⟩
    · rw [hnone]
      exact .stored t
    · rw [hset]
      exact .ended t o x (hfollows.mono fun e he => List.mem_append_right _ he)
  · cases result with
    | ok t => exact absurd rfl (hresult t)
    | error e =>
      obtain ⟨rfl, -⟩ := leads_done.mp hrest
      rw [writesIn_nil, List.append_nil]
      rcases hw with hw | ⟨e', hw⟩
      · rw [hw]
        exact .none
      · rw [hw]
        exact .refused e'

end Watcher

/-! ## Sweeps -/

theorem sweepTimes_only (schedule : SweepSchedule) (times : Nat) :
    (sweepTimes schedule times).Only fun r =>
      r.writesTasks = true → ∃ staleness, r = .sweep staleness := by
  fun_induction sweepTimes schedule times with
  | case1 => trivial
  | case2 => exact ⟨fun _ => ⟨_, rfl⟩, fun _ => trivial⟩
  | case3 left ih => exact ⟨fun _ => ⟨_, rfl⟩, fun _ => ⟨fun h => Bool.noConfusion h, fun _ => ih⟩⟩

end DeployWatch
