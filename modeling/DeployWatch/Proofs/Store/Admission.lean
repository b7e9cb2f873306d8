import DeployWatch.Proofs.Store.Runs
import DeployWatch.Proofs.Store.Simulated

/-!
# Admissions leave all or nothing

An admission asks for the session, notes in a gauge what came of that, asks whether the store answers,
and only then looks at the submission and writes to the store.

* `Sinks`, `Bookkeeping`: what an admission writes to, and surroundings that keep it as they are told;
* `sessionHealth_eq_ok`, `isUnreachable_sessionHealth`: what the answer about the session means;
* `AdmissionEffect`, **`admitTask_effect`**: what may come of an admission;
* `Request.isOfAdmission`, `Watcher.submit_of_error`: a refused submission is not observed;
* **`admission_atomic`**: when a submission is admitted, and what is left if it is not.
-/

namespace DeployWatch

open Time (Instant)
open Program (ask done)

/-! ## What an admission writes to -/

/-- The task store, the metrics, and the audit events, the newest first. -/
structure Sinks where
  store : TaskStore
  metrics : Metrics
  audits : List AuditEvent

namespace Sinks

def add (v : Sinks) (sub : Submission) (id : Uuid) (now : Instant) : Sinks :=
  { v with store := (v.store.add sub id now).1 }

def record (v : Sinks) (m : Metric) : Sinks := { v with metrics := v.metrics.record m }

def audit (v : Sinks) (e : AuditEvent) : Sinks := { v with audits := e :: v.audits }

/-- The sinks once it is noted whether the control plane is out of reach. -/
def gauged (v : Sinks) (session : Except ControlPlaneError Session) : Sinks :=
  v.record (.unavailable (isUnreachable (sessionHealth session)))

end Sinks

/-- Surroundings that record what they are told. A write that the store takes adds the task under an
identifier and at a time of the store's choice, a write that it refuses changes nothing, and questions
change nothing. -/
structure Bookkeeping {σ : Type} (s : Surroundings σ) (sinks : σ → Sinks) : Prop where
  session : ∀ w, sinks (s.answer .session w).2 = sinks w
  storeReady : ∀ w, sinks (s.answer .storeReady w).2 = sinks w
  recorded : ∀ m w, sinks (s.answer (.record m) w).2 = (sinks w).record m
  audited : ∀ e w, sinks (s.answer (.audit e) w).2 = (sinks w).audit e
  stored : ∀ sub w t, (s.answer (.addTask sub) w).1 = .ok t → ∃ id now, t = sub.toTask id now ∧
    sinks (s.answer (.addTask sub) w).2 = (sinks w).add sub id now
  refused : ∀ sub w e, (s.answer (.addTask sub) w).1 = .error e →
    sinks (s.answer (.addTask sub) w).2 = sinks w

/-! ## The answer about the session -/

theorem sessionHealth_eq_ok {session : Except ControlPlaneError Session} :
    sessionHealth session = .ok () ↔ ∃ i, session = .ok i ∧ i.loggedIn = true := by
  cases session with
  | ok i => cases h : i.loggedIn <;> simp [sessionHealth, h]
  | error e => cases e <;> simp [sessionHealth]

/-- The control plane is out of reach if the question failed for another reason than a missing
authorisation. -/
theorem isUnreachable_sessionHealth {session : Except ControlPlaneError Session} :
    isUnreachable (sessionHealth session) = true ↔
      ∃ e, session = .error e ∧ ∀ text, e ≠ .unauthorized text := by
  cases session with
  | ok i => cases h : i.loggedIn <;> simp [sessionHealth, isUnreachable, HealthError.isUnreachable, h]
  | error e => cases e <;> simp [sessionHealth, isUnreachable, HealthError.isUnreachable]

/-! ## What may come of an admission -/

/-- What may come of an admission, by the answers that it gets: about the session, about the store, and to
its write. -/
inductive AdmissionEffect (session : Except ControlPlaneError Session) (ready : Bool)
    (sub : Submission) (write : Except StoreError Task) (v : Sinks) :
    Except AdmissionError Task → Sinks → Prop
  | unready : ready = false → AdmissionEffect session ready sub write v
      (.error (.unhealthy .storeUnavailable)) (v.gauged session)
  | unhealthy {e : HealthError} : ready = true → sessionHealth session = .error e →
    AdmissionEffect session ready sub write v (.error (.unhealthy e)) (v.gauged session)
  | invalid {e : TaskError} : ready = true → sessionHealth session = .ok () → sub.check = .error e →
    AdmissionEffect session ready sub write v (.error (.invalid e))
      ((v.gauged session).audit (.rejected sub.app sub.author e.message))
  | refused {e : StoreError} : ready = true → sessionHealth session = .ok () → sub.check = .ok () →
    write = .error e → AdmissionEffect session ready sub write v (.error (.store e)) (v.gauged session)
  | admitted {id : Uuid} {now : Instant} : ready = true → sessionHealth session = .ok () →
    sub.check = .ok () → write = .ok (sub.toTask id now) →
    AdmissionEffect session ready sub write v (.ok (sub.toTask id now))
      (((v.gauged session).add sub id now).record (.processed sub.app))

namespace AdmissionEffect

variable {session : Except ControlPlaneError Session} {ready : Bool} {sub : Submission}
  {write : Except StoreError Task} {v v' : Sinks} {result : Except AdmissionError Task}

theorem ok_iff (h : AdmissionEffect session ready sub write v result v') : (∃ t, result = .ok t) ↔
    ready = true ∧ sessionHealth session = .ok () ∧ sub.check = .ok () ∧ ∃ t, write = .ok t := by
  cases h with
  | unready hready => simp [hready]
  | unhealthy _ hhealth => simp [hhealth]
  | invalid _ _ hcheck => simp [hcheck]
  | refused _ _ _ hwrite => simp [hwrite]
  | admitted hready hhealth hcheck hwrite => simp [hready, hhealth, hcheck, hwrite]

theorem of_ok {t : Task} (h : AdmissionEffect session ready sub write v (.ok t) v') :
    ∃ id now, t = sub.toTask id now ∧
      v' = ((v.gauged session).add sub id now).record (.processed sub.app) := by
  cases h with
  | admitted => exact ⟨_, _, rfl, rfl⟩

/-- A failed admission leaves tasks and counts as they are, and fails for the first of four reasons. -/
theorem of_error {e : AdmissionError}
    (h : AdmissionEffect session ready sub write v (.error e) v') :
    v'.store = v.store ∧ v'.metrics.processed = v.metrics.processed ∧
      ((¬ ready = true ∧ e = .unhealthy .storeUnavailable) ∨
        (ready = true ∧ ∃ f, sessionHealth session = .error f ∧ e = .unhealthy f) ∨
        (ready = true ∧ sessionHealth session = .ok () ∧ ∃ f, sub.check = .error f ∧ e = .invalid f) ∨
        (ready = true ∧ sessionHealth session = .ok () ∧ sub.check = .ok () ∧
          ∃ f, write = .error f ∧ e = .store f)) := by
  cases h with
  | unready hready => exact ⟨rfl, rfl, .inl ⟨by simp [hready], rfl⟩⟩
  | unhealthy hready hhealth => exact ⟨rfl, rfl, .inr (.inl ⟨hready, _, hhealth, rfl⟩)⟩
  | invalid hready hhealth hcheck =>
    exact ⟨rfl, rfl, .inr (.inr (.inl ⟨hready, hhealth, _, hcheck, rfl⟩))⟩
  | refused hready hhealth hcheck hwrite =>
    exact ⟨rfl, rfl, .inr (.inr (.inr ⟨hready, hhealth, hcheck, _, hwrite, rfl⟩))⟩

theorem unavailable (h : AdmissionEffect session ready sub write v result v') :
    v'.metrics.unavailable = some (isUnreachable (sessionHealth session)) := by
  cases h <;> rfl

theorem audits_of_invalid (h : AdmissionEffect session ready sub write v result v') {e : TaskError}
    (hready : ready = true) (hhealth : sessionHealth session = .ok ()) (hcheck : sub.check = .error e) :
    v'.audits = .rejected sub.app sub.author e.message :: v.audits := by
  cases h with
  | unready hready' => simp [hready] at hready'
  | unhealthy _ hhealth' => simp [hhealth] at hhealth'
  | invalid _ _ hcheck' =>
    rw [hcheck] at hcheck'
    cases hcheck'
    rfl
  | refused _ _ hcheck' => simp [hcheck] at hcheck'
  | admitted _ _ hcheck' => simp [hcheck] at hcheck'

theorem audits_of_not_invalid (h : AdmissionEffect session ready sub write v result v')
    (hvalid : ¬ (ready = true ∧ sessionHealth session = .ok () ∧ ∃ e, sub.check = .error e)) :
    v'.audits = v.audits := by
  cases h with
  | invalid hready hhealth hcheck => exact absurd ⟨hready, hhealth, _, hcheck⟩ hvalid
  | _ => rfl

end AdmissionEffect

/-! ## Admissions alone -/

namespace Surroundings

variable {σ : Type} (s : Surroundings σ) (w : σ)

/-- The answer about the session that an admission gets which starts from `w`. -/
def sessionAt : Except ControlPlaneError Session := (s.answer .session w).1

/-- The answer about the store that it gets, and the state then. -/
def probeAt : Bool × σ :=
  s.answer .storeReady (s.answer
    (.record (.unavailable (isUnreachable (sessionHealth (s.sessionAt w))))) (s.answer .session w).2).2

/-- The answer to its write, if it comes to that. -/
def writeAt (sub : Submission) : Except StoreError Task := (s.answer (.addTask sub) (s.probeAt w).2).1

end Surroundings

section Alone

variable {σ : Type} {s : Surroundings σ} {sinks : σ → Sinks} (hs : Bookkeeping s sinks)
  (sub : Submission) (w : σ)

theorem admitTask_run : (admitTask sub).run s w =
    (match if (s.probeAt w).1 then sessionHealth (s.sessionAt w) else .error .storeUnavailable with
      | .error e => done (.error (.unhealthy e))
      | .ok () => admitHealthy sub : Program (Except AdmissionError Task)).run s (s.probeAt w).2 := rfl

include hs

theorem admitHealthy_effect {session : Except ControlPlaneError Session} {v : Sinks}
    (hw : sinks w = v.gauged session) (hok : sessionHealth session = .ok ()) :
    AdmissionEffect session true sub (s.answer (.addTask sub) w).1 v ((admitHealthy sub).run s w).1
      (sinks ((admitHealthy sub).run s w).2) := by
  unfold admitHealthy
  cases hcheck : sub.check with
  | error e =>
    rw [Program.run_ask, Program.run_done, hs.audited, hw]
    exact .invalid rfl hok hcheck
  | ok _ =>
    rw [Program.run_ask]
    have hstored := hs.stored sub w
    have hrefused := hs.refused sub w
    generalize s.answer (.addTask sub) w = answered at hstored hrefused ⊢
    obtain ⟨result, w'⟩ := answered
    cases result with
    | error e =>
      rw [Program.run_done, hrefused e rfl, hw]
      exact .refused rfl hok hcheck rfl
    | ok t =>
      obtain ⟨id, now, rfl, hsinks⟩ := hstored t rfl
      rw [Program.run_ask, Program.run_done, hs.recorded, hsinks, hw]
      exact .admitted rfl hok hcheck rfl

/-- **Nothing else comes of an admission.** -/
theorem admitTask_effect : AdmissionEffect (s.sessionAt w) (s.probeAt w).1 sub (s.writeAt w sub)
    (sinks w) ((admitTask sub).run s w).1 (sinks ((admitTask sub).run s w).2) := by
  have hprobe : sinks (s.probeAt w).2 = (sinks w).gauged (s.sessionAt w) := by
    unfold Surroundings.probeAt
    rw [hs.storeReady, hs.recorded, hs.session]
    rfl
  rw [admitTask_run]
  unfold Surroundings.writeAt
  generalize s.probeAt w = probe at hprobe ⊢
  generalize s.sessionAt w = session at hprobe ⊢
  obtain ⟨ready, w'⟩ := probe
  cases ready with
  | false =>
    rw [if_neg Bool.false_ne_true, Program.run_done, hprobe]
    exact .unready rfl
  | true =>
    rw [if_pos rfl]
    cases hhealth : sessionHealth session with
    | error e =>
      rw [Program.run_done, hprobe]
      exact .unhealthy rfl hhealth
    | ok _ => exact admitHealthy_effect hs sub w' hprobe hhealth

end Alone

/-! ## Refused submissions -/

/-- The requests of an admission. -/
def Request.isOfAdmission : Request → Bool
  | .session | .storeReady | .addTask _ | .audit _ => true
  | .record (.unavailable _) | .record (.processed _) => true
  | _ => false

theorem admitTask_only (sub : Submission) : (admitTask sub).Only (·.isOfAdmission) := by
  have hcheck : checkHealth.Only (·.isOfAdmission) :=
    ⟨rfl, fun _ => ⟨rfl, fun _ => ⟨rfl, fun _ => trivial⟩⟩⟩
  rw [admitTask_eq]
  refine hcheck.bind fun health => ?_
  cases health with
  | error e => trivial
  | ok _ =>
    show (admitHealthy sub).Only _
    unfold admitHealthy
    split
    · exact ⟨rfl, fun _ => trivial⟩
    · refine ⟨rfl, fun result => ?_⟩
      cases result with
      | error e => trivial
      | ok t => exact ⟨rfl, fun _ => trivial⟩

/-- **A refused submission is not observed**: all that happens is its admission. -/
theorem Watcher.submit_of_error {σ : Type} {s : Surroundings σ} {sub : Submission} {w : σ}
    {e : AdmissionError} (u : Watcher) (h : ((admitTask sub).run s w).1 = .error e) :
    (u.submit sub).run s w = (admitTask sub).run s w ∧
      ∀ q ∈ (u.submit sub).requests s w, q.isOfAdmission = true := by
  have hrequests : (u.submit sub).requests s w = (admitTask sub).requests s w := by
    rw [submit_eq, Program.requests_bind, h]
    exact List.append_nil _
  rw [hrequests]
  refine ⟨?_, (admitTask_only sub).history w⟩
  rw [submit_eq, Program.run_bind, h]
  exact Prod.ext h.symm rfl

/-! ## All or nothing -/

/-- **Admissions leave all or nothing.** A submission is admitted exactly if the store answers, the
session is logged in, the submission is valid and the store takes it. Then the store has one task more,
in progress and as submitted, and the application has one processed task more. Otherwise the tasks and
the counts of processed tasks are as before, nothing is observed, and the error is that of the first
condition that is not met. In any case the gauge tells whether the question for the session failed for
another reason than a missing authorisation, and a rejection is written to the audit log exactly if only
the submission is at fault. -/
theorem admission_atomic {σ : Type} {s : Surroundings σ} {sinks : σ → Sinks}
    (hs : Bookkeeping s sinks) (sub : Submission) (w : σ) :
    let ready := (s.probeAt w).1 = true
    let loggedIn := ∃ i, s.sessionAt w = .ok i ∧ i.loggedIn = true
    let result := ((admitTask sub).run s w).1
    let before := sinks w
    let after := sinks ((admitTask sub).run s w).2
    ((∃ t, result = .ok t) ↔
      ready ∧ loggedIn ∧ sub.check = .ok () ∧ ∃ t, s.writeAt w sub = .ok t) ∧
    (∀ t, result = .ok t →
      (∃ id now, after.store = (before.store.add sub id now).1 ∧
        (id ∉ before.store.ids → after.store.tasks = before.store.tasks ++ [t]) ∧
        t = { id := id, created := now, updated := now, app := sub.app, author := sub.author,
              project := sub.project, images := sub.images, status := .inProgress, reason := "",
              timeout := sub.timeout, validated := sub.validated }) ∧
      ∀ app, after.metrics.processed.find? app =
        if app = sub.app then some ((before.metrics.processed.find? app).getD 0 + 1)
        else before.metrics.processed.find? app) ∧
    (∀ e, result = .error e →
      after.store = before.store ∧ after.metrics.processed = before.metrics.processed ∧
      (∀ u : Watcher, (u.submit sub).run s w = (admitTask sub).run s w ∧
        ∀ q ∈ (u.submit sub).requests s w, q.isOfAdmission = true) ∧
      ((¬ ready ∧ e = .unhealthy .storeUnavailable) ∨
        (ready ∧ ∃ h, sessionHealth (s.sessionAt w) = .error h ∧ e = .unhealthy h) ∨
        (ready ∧ loggedIn ∧ ∃ f, sub.check = .error f ∧ e = .invalid f) ∨
        (ready ∧ loggedIn ∧ sub.check = .ok () ∧ ∃ f, s.writeAt w sub = .error f ∧ e = .store f))) ∧
    (∃ unreachable, after.metrics.unavailable = some unreachable ∧ (unreachable = true ↔
      ∃ e, s.sessionAt w = .error e ∧ ∀ text, e ≠ .unauthorized text)) ∧
    (∀ e, ready → loggedIn → sub.check = .error e →
      after.audits = .rejected sub.app sub.author e.message :: before.audits) ∧
    (¬ (ready ∧ loggedIn ∧ ∃ e, sub.check = .error e) → after.audits = before.audits) := by
  intro ready loggedIn result before after
  have heffect := admitTask_effect hs sub w
  change AdmissionEffect _ _ _ _ before result after at heffect
  have hlogged : sessionHealth (s.sessionAt w) = .ok () ↔ loggedIn := sessionHealth_eq_ok
  refine ⟨?_, fun t ht => ?_, fun e he => ?_, ?_, fun e hready hlog hcheck => ?_, fun hvalid => ?_⟩
  · rw [← hlogged]
    exact heffect.ok_iff
  · rw [ht] at heffect
    obtain ⟨id, now, htask, hafter⟩ := heffect.of_ok
    rw [hafter]
    refine ⟨⟨id, now, rfl, fun hnew => ?_, htask⟩, fun app => ?_⟩
    · rw [htask]
      exact TaskStore.add_of_not_mem hnew sub now
    · show (before.metrics.processed.insert sub.app _).find? app = _
      rw [SortedMap.find?_insert]
      by_cases happ : app = sub.app
      · rw [if_pos happ, if_pos happ.symm, happ]
        rfl
      · rw [if_neg happ, if_neg (Ne.symm happ)]
  · have hsubmit := fun u : Watcher => u.submit_of_error he
    rw [he] at heffect
    rw [← hlogged]
    obtain ⟨hstore, hprocessed, hfirst⟩ := heffect.of_error
    exact ⟨hstore, hprocessed, hsubmit, hfirst⟩
  · exact ⟨_, heffect.unavailable, isUnreachable_sessionHealth⟩
  · exact heffect.audits_of_invalid hready (hlogged.mpr hlog) hcheck
  · rw [← hlogged] at hvalid
    exact heffect.audits_of_not_invalid hvalid

/-! ## Admissions in a simulated world -/

namespace Simulation

def World.sinks (w : World) : Sinks := ⟨w.store, w.metrics, w.audits⟩

theorem World.bookkeeping : Bookkeeping World.surroundings World.sinks where
  session _ := rfl
  storeReady _ := rfl
  recorded _ _ := rfl
  audited _ _ := rfl
  stored sub w t h := by
    change (w.addTask sub).1 = .ok t at h
    show ∃ id now, t = sub.toTask id now ∧ (w.addTask sub).2.sinks = _
    unfold addTask at h ⊢
    split at h
    · cases h
    · cases h
      exact ⟨_, _, rfl, rfl⟩
  refused sub w e h := by
    change (w.addTask sub).1 = .error e at h
    show (w.addTask sub).2.sinks = _
    unfold addTask at h ⊢
    split at h
    · rfl
    · cases h

/-- A submission that is as it should be. -/
def shopSubmission : Submission := { app := "shop", images := [⟨"registry/web", "v1"⟩] }

/-- A store that can only be read answers, but refuses the task, and nothing is left of it. -/
theorem admission_atomic_read_only :
    let w : World := { now := 0, mode := .readOnly }
    Bookkeeping World.surroundings World.sinks ∧ shopSubmission.check = .ok () ∧
      ((admitTask shopSubmission).run World.surroundings w).1 = .error (.store poolTimeout) ∧
      ((admitTask shopSubmission).run World.surroundings w).2.sinks.store = w.store := by
  intro w
  have hresult : ((admitTask shopSubmission).run World.surroundings w).1 =
      .error (.store poolTimeout) := rfl
  have hatomic := admission_atomic World.bookkeeping shopSubmission w
  exact ⟨World.bookkeeping, by decide +kernel, hresult, (hatomic.2.2.1 _ hresult).1⟩

end Simulation

end DeployWatch
