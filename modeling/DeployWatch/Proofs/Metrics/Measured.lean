import DeployWatch.Proofs.Rollout.Writes

/-!
# What is measured along a path

* `metricsIn`: the metrics of tasks in a history;
* `Watcher.Ended`: an observation has come to an outcome, and its watch has gone on;
* `Watcher.Stage`, **`Watcher.watch_stage`**: how far a watch has come, and what it has measured by then;
* `admitTask_measured`, `admission_bind`: what an admission has measured, and what comes after it;
* `Activity`, `Activity.Admits`, `Activity.Observes`: what the service has running, with the task that it has
  admitted and its part of the observation;
* `Activity.mem_metricsIn_iff`, `Activity.nodup_metricsIn`: what an activity has measured.
-/

namespace DeployWatch

open Program (ask done Leads leads_ask leads_bind leads_done)

/-- The metric that a request measures, unless it is about the control plane. -/
def Request.taskMetric? : Request → Option Metric
  | .record (.unavailable _) => none
  | .record m => some m
  | _ => none

def metricsIn (h : List Exchange) : List Metric := h.filterMap (·.request.taskMetric?)

section MetricsIn

variable {h : List Exchange} {e : Exchange}

@[simp] theorem metricsIn_nil : metricsIn [] = [] := rfl

@[simp] theorem metricsIn_append (h' : List Exchange) :
    metricsIn (h ++ h') = metricsIn h ++ metricsIn h' :=
  List.filterMap_append

theorem metricsIn_cons_of_quiet (he : e.request.taskMetric? = none) : metricsIn (e :: h) = metricsIn h :=
  List.filterMap_cons_none he

theorem metricsIn_cons_of_metric {m : Metric} (he : e.request.taskMetric? = some m) :
    metricsIn (e :: h) = m :: metricsIn h :=
  List.filterMap_cons_some he

theorem metricsIn_of_quiet (hh : ∀ e ∈ h, e.request.taskMetric? = none) : metricsIn h = [] :=
  List.filterMap_eq_nil_iff.mpr hh

end MetricsIn

/-! ## Watches -/

namespace Watcher

variable {w : Watcher} {t : Task} {h h' : List Exchange} {o o' : Outcome}

theorem observe_unmeasured (w : Watcher) (t : Task) : (w.observe t).Only (·.taskMetric? = none) :=
  w.observe_only t fun q hq => by cases q <;> first | rfl | exact absurd hq Bool.false_ne_true

theorem outcomeMetric_taskMetric? (app : String) (o : Outcome) :
    (Request.record (outcomeMetric app o)).taskMetric? = some (outcomeMetric app o) := by
  cases o <;> rfl

/-- The observation has come to an outcome, and the watch has gone on from there. -/
def Ended (w : Watcher) (t : Task) (h : List Exchange) (o : Outcome) : Prop :=
  ∃ e₁ e₂ h₁ e h₂, h = e₁ :: e₂ :: (h₁ ++ e :: h₂) ∧ (w.observe t).Leads h₁ (done o)

/-- How far a watch has come, and what it has measured by then. -/
inductive Stage (w : Watcher) (t : Task) (h : List Exchange) : List Metric → Prop
  | waiting : h = [] → Stage w t h []
  | underway : h ≠ [] → (∀ o, ¬ w.Ended t h o) → ¬ (w.watch t).Leads h (done ()) →
    Stage w t h [.entered]
  | reporting {o : Outcome} : (∀ o', w.Ended t h o' ↔ o' = o) → ¬ (w.watch t).Leads h (done ()) →
    Stage w t h [.entered, outcomeMetric t.app o]
  | finished {o : Outcome} : (∀ o', w.Ended t h o' ↔ o' = o) → (w.watch t).Leads h (done ()) →
    Stage w t h [.entered, outcomeMetric t.app o, .left]

/-- Within its observation, a watch has not come to an outcome. -/
theorem not_ended_of_leads {e₁ e₂ : Exchange} {p : Program Outcome}
    (hobserve : (w.observe t).Leads h p) : ¬ w.Ended t (e₁ :: e₂ :: h) o := by
  rintro ⟨_, _, h₁, e, h₂, heq, hended⟩
  simp only [List.cons.injEq] at heq
  obtain ⟨rfl, rfl, rfl⟩ := heq
  obtain ⟨p', hfirst, hrest⟩ := hobserve.of_append
  obtain rfl := hended.unique hfirst
  exact absurd (leads_done.mp hrest).1 (List.cons_ne_nil _ _)

/-- The outcome of a watch that has gone on from its observation. -/
theorem ended_iff {e₁ e₂ e : Exchange} (hobserve : (w.observe t).Leads h (done o)) :
    w.Ended t (e₁ :: e₂ :: (h ++ e :: h')) o' ↔ o' = o := by
  constructor
  · rintro ⟨_, _, h₁, e', h₂, heq, hended⟩
    simp only [List.cons.injEq] at heq
    exact (hobserve.done_unique hended heq.2.2.symm).1
  · rintro rfl
    exact ⟨_, _, _, _, _, rfl, hobserve⟩

/-- After it has measured the outcome, a watch measures its end only. -/
theorem report_rest {status : Status} {reason : String} {after : Task} {q : Program Unit}
    (hreport : (ask (.setStatus t.id status reason) fun _ => ask (.announce after) fun _ =>
      ask (.record .left) fun _ => done ()).Leads h q) :
    metricsIn h = [] ∧ q ≠ done () ∨ metricsIn h = [.left] ∧ q = done () := by
  rcases leads_ask.mp hreport with ⟨rfl, rfl⟩ | ⟨_, h₁, rfl, hannounce⟩
  · exact .inl ⟨rfl, nofun⟩
  rcases leads_ask.mp hannounce with ⟨rfl, rfl⟩ | ⟨_, h₂, rfl, hleave⟩
  · exact .inl ⟨rfl, nofun⟩
  rcases leads_ask.mp hleave with ⟨rfl, rfl⟩ | ⟨_, h₃, rfl, hdone⟩
  · exact .inl ⟨rfl, nofun⟩
  obtain ⟨rfl, rfl⟩ := leads_done.mp hdone
  exact .inr ⟨rfl, rfl⟩

/-- **How far a watch has come tells what it has measured.** -/
theorem watch_stage {q : Program Unit} (hwatch : (w.watch t).Leads h q) : w.Stage t h (metricsIn h) := by
  -- As a history leads to one program only, a watch that is elsewhere has not come to its end.
  have hnot : q ≠ done () → ¬ (w.watch t).Leads h (done ()) := fun hq hdone => hq (hdone.unique hwatch)
  have hpath := hwatch
  rw [watch_eq] at hpath
  rcases leads_ask.mp hpath with ⟨rfl, -⟩ | ⟨_, h₁, rfl, hannounce⟩
  · exact .waiting rfl
  rcases leads_ask.mp hannounce with ⟨rfl, rfl⟩ | ⟨_, h₂, rfl, hrest⟩
  · refine .underway (List.cons_ne_nil _ _) ?_ (hnot nofun)
    rintro o ⟨_, _, _, _, _, heq, -⟩
    cases heq
  have hentered (h : List Exchange) (x : (Request.record .entered).Answer) (y : (Request.announce t).Answer) :
      metricsIn (⟨.record .entered, x⟩ :: ⟨.announce t, y⟩ :: h) = .entered :: metricsIn h := rfl
  rcases leads_bind hrest with ⟨r, next, hobserve, rfl⟩ | ⟨o, h₃, h₄, rfl, hobserve, hreport⟩
  · rw [hentered, metricsIn_of_quiet ((w.observe_unmeasured t).leads hobserve)]
    exact .underway (List.cons_ne_nil _ _) (fun _ => not_ended_of_leads hobserve) (hnot nofun)
  rw [hentered, metricsIn_append, metricsIn_of_quiet ((w.observe_unmeasured t).leads hobserve),
    List.nil_append]
  rcases leads_ask.mp hreport with ⟨rfl, rfl⟩ | ⟨x, h₅, rfl, hset⟩
  · simp only [List.append_nil] at hnot ⊢
    exact .underway (List.cons_ne_nil _ _) (fun _ => not_ended_of_leads hobserve) (hnot nofun)
  rw [metricsIn_cons_of_metric (outcomeMetric_taskMetric? t.app o)]
  rcases report_rest hset with ⟨hmetrics, hq⟩ | ⟨hmetrics, rfl⟩
  · rw [hmetrics]
    exact .reporting (fun _ => ended_iff hobserve) (hnot hq)
  · rw [hmetrics]
    exact .finished (fun _ => ended_iff hobserve) hwatch

/-- What a watch must have done for a metric. -/
def Shows (w : Watcher) (t : Task) (h : List Exchange) : Metric → Prop
  | .entered => h ≠ []
  | .left => (w.watch t).Leads h (done ())
  | .reset app => t.app = app ∧ w.Ended t h .deployed
  | .failed app => t.app = app ∧ ∃ why, w.Ended t h (.failed why)
  | _ => False

theorem ne_nil_of_leads_done (hdone : (w.watch t).Leads h (done ())) : h ≠ [] := by
  rintro rfl
  cases hdone

theorem Stage.mem_iff {ms : List Metric} (hstage : w.Stage t h ms) (m : Metric) :
    m ∈ ms ↔ w.Shows t h m := by
  cases hstage with
  | waiting hnil =>
    subst hnil
    have hended : ∀ o, ¬ w.Ended t [] o := by
      rintro o ⟨_, _, _, _, _, heq, -⟩
      cases heq
    have hdone : ¬ (w.watch t).Leads [] (done ()) := fun h => ne_nil_of_leads_done h rfl
    cases m <;> simp [Shows, hended, hdone]
  | underway hne hended hdone => cases m <;> simp [Shows, hne, hended, hdone]
  | @reporting o hended hdone =>
    have hne : h ≠ [] := by
      rintro rfl
      obtain ⟨_, _, _, _, _, heq, -⟩ := (hended o).mpr rfl
      cases heq
    cases o <;> cases m <;> simp [Shows, hne, hended, hdone, outcomeMetric, eq_comm]
  | @finished o hended hdone =>
    have hne := ne_nil_of_leads_done hdone
    cases o <;> cases m <;> simp [Shows, hne, hended, hdone, outcomeMetric, eq_comm]

theorem Stage.nodup {ms : List Metric} (hstage : w.Stage t h ms) : ms.Nodup := by
  cases hstage with
  | waiting _ => exact List.nodup_nil
  | underway _ _ _ => exact List.pairwise_singleton _ _
  | @reporting o _ _ => cases o <;> simp [outcomeMetric]
  | @finished o _ _ => cases o <;> simp [outcomeMetric]

end Watcher

/-! ## Admissions -/

theorem Request.taskMetric?_of_isOfCheck {q : Request} (hq : q.isOfCheck) : q.taskMetric? = none := by
  cases q with
  | record m => cases m <;> first | rfl | exact absurd hq Bool.false_ne_true
  | _ => rfl

theorem admitTask_measured {s : Submission} {h : List Exchange}
    {q : Program (Except AdmissionError Task)} (hadmission : (admitTask s).Leads h q) :
    (∃ t, q = done (.ok t) ∧ metricsIn h = [.processed t.app]) ∨
      (∀ t, q ≠ done (.ok t)) ∧ metricsIn h = [] := by
  have hquiet {h : List Exchange} (hchecked : ∀ e ∈ h, e.request.isOfCheck) : metricsIn h = [] :=
    metricsIn_of_quiet fun e he => Request.taskMetric?_of_isOfCheck (hchecked e he)
  cases admitTask_path hadmission with
  | unstored hchecked hq => exact .inr ⟨hq, hquiet hchecked⟩
  | refused e hchecked =>
    refine .inr ⟨nofun, ?_⟩
    rw [metricsIn_append, hquiet hchecked]
    rfl
  | stored t hchecked =>
    refine .inr ⟨nofun, ?_⟩
    rw [metricsIn_append, hquiet hchecked]
    rfl
  | admitted t hchecked =>
    refine .inl ⟨t, rfl, ?_⟩
    rw [metricsIn_append, hquiet hchecked]
    rfl

theorem mem_metricsIn_of_admitted {s : Submission} {t : Task} {h : List Exchange}
    (hadmission : (admitTask s).Leads h (done (.ok t))) (h' : List Exchange) :
    .processed t.app ∈ metricsIn (h ++ h') := by
  rcases admitTask_measured hadmission with ⟨t', hresult, hmetrics⟩ | ⟨hresult, -⟩
  · cases hresult
    rw [metricsIn_append, hmetrics]
    exact List.mem_cons_self
  · exact absurd rfl (hresult t)

/-- What is measured by an admission and by what comes after it, if it comes to that. -/
theorem admission_bind {s : Submission} {β : Type} {f : Except AdmissionError Task → Program β}
    {h : List Exchange} {q : Program β} (hpath : ((admitTask s).bind f).Leads h q) :
    metricsIn h = [] ∨
      (∃ t h₁ h₂, h = h₁ ++ h₂ ∧ (admitTask s).Leads h₁ (done (.ok t)) ∧ (f (.ok t)).Leads h₂ q ∧
        metricsIn h = .processed t.app :: metricsIn h₂) ∨
      ∃ e h₂, (f (.error e)).Leads h₂ q ∧ metricsIn h = metricsIn h₂ := by
  rcases leads_bind hpath with ⟨_, _, hadmission, -⟩ | ⟨result, h₁, h₂, rfl, hadmission, hrest⟩
  · rcases admitTask_measured hadmission with ⟨_, hresult, -⟩ | ⟨-, hmetrics⟩
    · cases hresult
    · exact .inl hmetrics
  · rw [metricsIn_append]
    rcases admitTask_measured hadmission with ⟨t, hresult, hmetrics⟩ | ⟨hresult, hmetrics⟩
    · cases hresult
      exact .inr (.inl ⟨t, h₁, h₂, rfl, hadmission, hrest, by rw [hmetrics]; rfl⟩)
    · cases result with
      | ok t => exact absurd rfl (hresult t)
      | error e => exact .inr (.inr ⟨e, h₂, hrest, by rw [hmetrics]; rfl⟩)

/-! ## Activities -/

/-- What the service has running: the admission of a task, with or without the observation of its rollout,
the observation of a given task, and all that measures nothing about tasks. -/
inductive Activity where
  | admission (s : Submission)
  | submission (w : Watcher) (s : Submission)
  | observation (w : Watcher) (t : Task)
  | other (p : Program Unit) (quiet : p.Only (·.taskMetric? = none))

namespace Activity

def program : Activity → Program Unit
  | admission s => (admitTask s).bind fun _ => done ()
  | submission w s => (w.submit s).bind fun _ => done ()
  | observation w t => w.watch t
  | other p _ => p

/-- Within its history, an activity has admitted a task. -/
inductive Admits : Activity → List Exchange → Task → Prop
  | admission {s : Submission} {t : Task} {h h' : List Exchange} :
    (admitTask s).Leads h (done (.ok t)) → Admits (admission s) (h ++ h') t
  | submission {w : Watcher} {s : Submission} {t : Task} {h h' : List Exchange} :
    (admitTask s).Leads h (done (.ok t)) → Admits (submission w s) (h ++ h') t

/-- The part of an activity's history, so far, that belongs to the observation of a task. -/
inductive Observes : Activity → List Exchange → Watcher → Task → List Exchange → Prop
  | submission {w : Watcher} {s : Submission} {t : Task} {h h' : List Exchange} :
    (admitTask s).Leads h (done (.ok t)) → Observes (submission w s) (h ++ h') w t h'
  | observation {w : Watcher} {t : Task} {h : List Exchange} : Observes (observation w t) h w t h

variable {a : Activity} {h h₁ h₂ : List Exchange} {w w₁ w₂ : Watcher} {t t₁ t₂ : Task}
  {q : Program Unit}

theorem Observes.unique (h₁' : a.Observes h w₁ t₁ h₁) (h₂' : a.Observes h w₂ t₂ h₂) :
    w₂ = w₁ ∧ t₂ = t₁ ∧ h₂ = h₁ := by
  cases h₁' with
  | observation =>
    cases h₂'
    exact ⟨rfl, rfl, rfl⟩
  | submission hfirst =>
    generalize hh : _ ++ h₁ = h at h₂'
    cases h₂' with
    | submission hsecond =>
      obtain ⟨ht, -, hrest⟩ := hfirst.done_unique hsecond hh.symm
      cases ht
      exact ⟨rfl, rfl, hrest⟩

/-- The part of an observation is a path of its watch. -/
theorem Observes.leads (hobserves : a.Observes h w t h₁) (ha : a.program.Leads h q) :
    ∃ q', (w.watch t).Leads h₁ q' := by
  cases hobserves with
  | observation => exact ⟨q, ha⟩
  | submission hadmission =>
    obtain ⟨q', hsubmit⟩ := Leads.of_bind_done ha
    rw [Watcher.submit_eq] at hsubmit
    exact Leads.of_bind_done (hsubmit.bind_rest hadmission)

theorem Observes.sublist (hobserves : a.Observes h w t h₁) : h₁.Sublist h := by
  cases hobserves with
  | observation => exact List.Sublist.refl _
  | submission _ => exact List.sublist_append_right _ _

/-- What an activity must have done for a metric. -/
def Shows (a : Activity) (h : List Exchange) (m : Metric) : Prop :=
  (∃ t, a.Admits h t ∧ m = .processed t.app) ∨ ∃ w t h', a.Observes h w t h' ∧ w.Shows t h' m

/-- What an activity has measured is nothing, an admission, what belongs to an observation, or both, one
after the other. -/
theorem metricsIn_eq (ha : a.program.Leads h q) :
    ∃ ms ms', metricsIn h = ms ++ ms' ∧ (ms = [] ∨ ∃ t, a.Admits h t ∧ ms = [.processed t.app]) ∧
      (ms' = [] ∨ ∃ w t h', a.Observes h w t h' ∧ w.Stage t h' ms') := by
  cases a with
  | admission s =>
    rcases admission_bind ha with hnone | ⟨t, h₁, h₂, rfl, hadmission, hdone, hmetrics⟩ |
      ⟨e, h₂, hdone, hmetrics⟩
    · exact ⟨[], [], hnone, .inl rfl, .inl rfl⟩
    · obtain ⟨rfl, -⟩ := leads_done.mp hdone
      exact ⟨_, [], hmetrics, .inr ⟨t, .admission hadmission, rfl⟩, .inl rfl⟩
    · obtain ⟨rfl, -⟩ := leads_done.mp hdone
      exact ⟨[], [], hmetrics, .inl rfl, .inl rfl⟩
  | submission w s =>
    obtain ⟨q', hsubmit⟩ := Leads.of_bind_done ha
    rw [Watcher.submit_eq] at hsubmit
    rcases admission_bind hsubmit with hnone | ⟨t, h₁, h₂, rfl, hadmission, hrest, hmetrics⟩ |
      ⟨e, h₂, hdone, hmetrics⟩
    · exact ⟨[], [], hnone, .inl rfl, .inl rfl⟩
    · obtain ⟨_, hwatch⟩ := Leads.of_bind_done hrest
      exact ⟨[_], _, hmetrics, .inr ⟨t, .submission hadmission, rfl⟩,
        .inr ⟨w, t, h₂, .submission hadmission, Watcher.watch_stage hwatch⟩⟩
    · obtain ⟨rfl, -⟩ := leads_done.mp hdone
      exact ⟨[], [], hmetrics, .inl rfl, .inl rfl⟩
  | observation w t =>
    exact ⟨[], metricsIn h, rfl, .inl rfl, .inr ⟨w, t, h, .observation, Watcher.watch_stage ha⟩⟩
  | other p quiet =>
    exact ⟨[], [], metricsIn_of_quiet (quiet.leads ha), .inl rfl, .inl rfl⟩

/-- **What an activity has measured is what it has done.** -/
theorem mem_metricsIn_iff (ha : a.program.Leads h q) (m : Metric) : m ∈ metricsIn h ↔ a.Shows h m := by
  constructor
  · intro hm
    obtain ⟨ms, ms', hmetrics, hms, hms'⟩ := metricsIn_eq ha
    rw [hmetrics, List.mem_append] at hm
    rcases hm with hm | hm
    · rcases hms with rfl | ⟨t, hadmits, rfl⟩
      · cases hm
      · exact .inl ⟨t, hadmits, List.mem_singleton.mp hm⟩
    · rcases hms' with rfl | ⟨w, t, h', hobserves, hstage⟩
      · cases hm
      · exact .inr ⟨w, t, h', hobserves, (hstage.mem_iff m).mp hm⟩
  · rintro (⟨t, hadmits, rfl⟩ | ⟨w, t, h', hobserves, hshows⟩)
    · cases hadmits with
      | admission hadmission => exact mem_metricsIn_of_admitted hadmission _
      | submission hadmission => exact mem_metricsIn_of_admitted hadmission _
    · obtain ⟨q', hwatch⟩ := hobserves.leads ha
      have hm := ((Watcher.watch_stage hwatch).mem_iff m).mpr hshows
      exact (hobserves.sublist.filterMap _).subset hm

theorem nodup_metricsIn (ha : a.program.Leads h q) : (metricsIn h).Nodup := by
  obtain ⟨ms, ms', hmetrics, hms, hms'⟩ := metricsIn_eq ha
  rw [hmetrics]
  have hrest : ms'.Nodup ∧ ∀ app, .processed app ∉ ms' := by
    rcases hms' with rfl | ⟨w, t, h', -, hstage⟩
    · exact ⟨List.nodup_nil, fun _ => List.not_mem_nil⟩
    · exact ⟨hstage.nodup, fun app hm => (hstage.mem_iff _).mp hm⟩
  rcases hms with rfl | ⟨t, -, rfl⟩
  · exact hrest.1
  · exact List.nodup_cons.mpr ⟨hrest.2 t.app, hrest.1⟩

end Activity

end DeployWatch
