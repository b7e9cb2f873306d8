import DeployWatch.Proofs.Metrics.Measured
import DeployWatch.Proofs.Metrics.Tally
import DeployWatch.Simulation.World

/-!
# Metrics are exact

* `Courses`: each activity goes along a path of its own;
* `underway`, `admittedBy`, `succeeded`, `unsuccessful`: who stands where;
* **`metrics_exact`**: the metrics count who stands where.
-/

namespace DeployWatch

open Program (done Leads)
open Crew (own)

/-! ## Activities -/

/-- Each activity goes along a path of its own, and no one else does anything. -/
def Courses (activities : List Activity) (H : List (Nat × Exchange)) : Prop :=
  ∀ n, match activities[n]? with
    | some a => ∃ q, a.program.Leads (own n H) q
    | none => own n H = []

namespace Courses

variable {activities : List Activity} {H H' : List (Nat × Exchange)} {n : Nat}

theorem of_unfolds {σ : Type} {s : Surroundings σ} {v : σ} {c : Crew σ Unit}
    (h : Crew.Unfolds s (.ofPrograms (activities.map Activity.program) v) H c) :
    Courses activities H := by
  intro n
  have harrives := h.leads n
  cases hrest : (c.floor.post n).rest? with
  | none =>
    rw [hrest] at harrives
    split
    · rename_i a ha
      rw [Crew.Arrives, List.getElem?_map, ha] at harrives
      cases harrives.1
    · exact harrives.2
  | some q =>
    rw [hrest] at harrives
    obtain ⟨p, hp, hleads⟩ := harrives
    rw [List.getElem?_map] at hp
    obtain ⟨a, ha, rfl⟩ := Option.map_eq_some_iff.mp hp
    rw [ha]
    exact ⟨q, hleads⟩

/-- What was the case before the end of an interleaving. -/
theorem of_append (h : Courses activities (H ++ H')) : Courses activities H := by
  intro n
  have hn := h n
  rw [Crew.own_append] at hn
  split
  · rename_i a ha
    rw [ha] at hn
    obtain ⟨q, hleads⟩ := hn
    obtain ⟨q', hfirst, -⟩ := hleads.of_append
    exact ⟨q', hfirst⟩
  · rename_i ha
    rw [ha] at hn
    exact (List.append_eq_nil_iff.mp hn).1

theorem mem_measured_iff (h : Courses activities H) (m : Metric) :
    (n, m) ∈ measured H ↔ ∃ a, activities[n]? = some a ∧ a.Shows (own n H) m := by
  rw [mem_measured]
  have hn := h n
  cases ha : activities[n]? with
  | none =>
    rw [ha] at hn
    simp [show own n H = [] from hn]
  | some a =>
    rw [ha] at hn
    obtain ⟨q, hleads⟩ := hn
    simp [Activity.mem_metricsIn_iff hleads]

/-- Who has measured something else than an admission has come to it in an observation. -/
theorem mem_measured_of_watch (h : Courses activities H) (m : Metric)
    (hm : ∀ app, m ≠ .processed app) : (n, m) ∈ measured H ↔ ∃ a w t h',
      activities[n]? = some a ∧ a.Observes (own n H) w t h' ∧ w.Shows t h' m := by
  rw [h.mem_measured_iff]
  constructor
  · rintro ⟨a, ha, ⟨t, -, happ⟩ | ⟨w, t, h', hobserves, hshows⟩⟩
    · exact absurd happ (hm t.app)
    · exact ⟨a, w, t, h', ha, hobserves, hshows⟩
  · rintro ⟨a, w, t, h', ha, hobserves, hshows⟩
    exact ⟨a, ha, .inr ⟨w, t, h', hobserves, hshows⟩⟩

theorem nodup_measured (h : Courses activities H) : (measured H).Nodup := by
  rw [List.nodup_iff_count_le_one]
  rintro ⟨n, m⟩
  rw [count_measured]
  have hn := h n
  split at hn
  · obtain ⟨q, hleads⟩ := hn
    exact List.nodup_iff_count_le_one.mp (Activity.nodup_metricsIn hleads) m
  · rw [hn]
    exact Nat.zero_le _

end Courses

/-! ## Who stands where -/

section Standing

variable (activities : List Activity) (H : List (Nat × Exchange)) (app : String)

/-- The activities whose observation has begun and has not come to its end. -/
def underway : Set Nat :=
  {n | ∃ a w t h, activities[n]? = some a ∧ a.Observes (own n H) w t h ∧ h ≠ [] ∧
    ¬ (w.watch t).Leads h (done ())}

/-- The activities that have admitted a task of an application. -/
def admittedBy : Set Nat :=
  {n | ∃ a t, activities[n]? = some a ∧ a.Admits (own n H) t ∧ t.app = app}

/-- The activities whose observation of an application has ended with a deployed rollout. -/
def succeeded : Set Nat :=
  {n | ∃ a w t h, activities[n]? = some a ∧ a.Observes (own n H) w t h ∧ t.app = app ∧
    w.Ended t h .deployed}

/-- The activities whose observation of an application has ended with a failure. -/
def unsuccessful : Set Nat :=
  {n | ∃ a w t h, activities[n]? = some a ∧ a.Observes (own n H) w t h ∧ t.app = app ∧
    ∃ why, w.Ended t h (.failed why)}

variable {activities H} (hcourses : Courses activities H)

include hcourses

theorem admittedBy_eq : admittedBy activities H app = {n | (n, .processed app) ∈ measured H} := by
  ext n
  simp only [admittedBy, Set.mem_ofPred_eq, hcourses.mem_measured_iff, Activity.Shows, Watcher.Shows]
  constructor
  · rintro ⟨a, t, ha, hadmits, rfl⟩
    exact ⟨a, ha, .inl ⟨t, hadmits, rfl⟩⟩
  · rintro ⟨a, ha, ⟨t, hadmits, happ⟩ | ⟨_, _, _, _, hfalse⟩⟩
    · cases happ
      exact ⟨a, t, ha, hadmits, rfl⟩
    · exact hfalse.elim

theorem succeeded_eq : succeeded activities H app = {n | (n, .reset app) ∈ measured H} := by
  ext n
  exact (hcourses.mem_measured_of_watch (.reset app) nofun).symm

theorem unsuccessful_eq : unsuccessful activities H app = {n | (n, .failed app) ∈ measured H} := by
  ext n
  exact (hcourses.mem_measured_of_watch (.failed app) nofun).symm

theorem underway_eq : underway activities H =
    {n | (n, .entered) ∈ measured H} \ {n | (n, .left) ∈ measured H} := by
  ext n
  rw [Set.mem_sdiff, Set.mem_ofPred_eq, Set.mem_ofPred_eq,
    hcourses.mem_measured_of_watch .entered nofun, hcourses.mem_measured_of_watch .left nofun]
  constructor
  · rintro ⟨a, w, t, h, ha, hobserves, hne, hdone⟩
    refine ⟨⟨a, w, t, h, ha, hobserves, hne⟩, ?_⟩
    rintro ⟨a', w', t', h', ha', hobserves', hdone'⟩
    rw [ha] at ha'
    cases ha'
    obtain ⟨rfl, rfl, rfl⟩ := hobserves.unique hobserves'
    exact hdone hdone'
  · rintro ⟨⟨a, w, t, h, ha, hobserves, hne⟩, hleft⟩
    exact ⟨a, w, t, h, ha, hobserves, hne, fun hdone => hleft ⟨a, w, t, h, ha, hobserves, hdone⟩⟩

/-- Who has come to the end of an observation has begun it. -/
theorem left_subset_entered :
    {n | (n, .left) ∈ measured H} ⊆ {n | (n, .entered) ∈ measured H} := by
  intro n hn
  obtain ⟨a, w, t, h, ha, hobserves, hdone⟩ := (hcourses.mem_measured_of_watch .left nofun).mp hn
  exact (hcourses.mem_measured_of_watch .entered nofun).mpr
    ⟨a, w, t, h, ha, hobserves, Watcher.ne_nil_of_leads_done hdone⟩

end Standing

/-! ## Exactness -/

section Exact

variable {σ : Type} {s : Surroundings σ} {metrics : σ → Metrics} {activities : List Activity} {v : σ}
  {H : List (Nat × Exchange)} {c : Crew σ Unit}

theorem running_exact (htally : Tally (metrics v) H (metrics c.state))
    (hcourses : Courses activities H) :
    (metrics c.state).running = (metrics v).running + (underway activities H).ncard := by
  have hsplit := Set.ncard_sdiff_add_ncard_of_subset (left_subset_entered hcourses)
    (finite_measured H .entered)
  rw [← underway_eq hcourses, ← timesMeasured_eq_ncard hcourses.nodup_measured,
    ← timesMeasured_eq_ncard hcourses.nodup_measured] at hsplit
  have hrunning := htally.running
  omega

/-- The gauge of failures counts those that have come after the last success, if there was one. -/
theorem failures_exact (htally : Tally (metrics v) H (metrics c.state))
    (hcourses : Courses activities H) (app : String) :
    (succeeded activities H app = ∅ ∧ (metrics c.state).failures app =
        (metrics v).failures app + (unsuccessful activities H app).ncard) ∨
      ∃ H₁ n e H₂, H = H₁ ++ [(n, e)] ++ H₂ ∧
        n ∈ succeeded activities (H₁ ++ [(n, e)]) app \ succeeded activities H₁ app ∧
        succeeded activities H app = succeeded activities (H₁ ++ [(n, e)]) app ∧
        (metrics c.state).failures app =
          (unsuccessful activities H app \ unsuccessful activities (H₁ ++ [(n, e)]) app).ncard := by
  rcases htally.failures app with ⟨hnone, hcount⟩ | ⟨H₁, n, e, H₂, hH, hreset, hnone, hcount⟩
  · refine .inl ⟨?_, ?_⟩
    · rw [succeeded_eq app hcourses, Set.eq_empty_iff_forall_notMem]
      exact fun n => mem_measured_of_zero hnone n
    · rw [hcount, unsuccessful_eq app hcourses, timesMeasured_eq_ncard hcourses.nodup_measured]
  · rw [show H₁ ++ (n, e) :: H₂ = H₁ ++ [(n, e)] ++ H₂ by simp] at hH
    subst hH
    have hlast : Courses activities (H₁ ++ [(n, e)]) := hcourses.of_append
    have hsingle : measured [(n, e)] = [(n, .reset app)] := by
      rw [measured_single, hreset]
      rfl
    have hnodup := hcourses.nodup_measured
    rw [measured_append] at hnodup
    -- No one measures anything twice: who has failed after the success had not failed before it.
    obtain ⟨-, hafter, hdisjoint⟩ := List.nodup_append.mp hnodup
    refine .inr ⟨H₁, n, e, H₂, rfl, ⟨?_, ?_⟩, ?_, ?_⟩
    · rw [succeeded_eq app hlast, Set.mem_ofPred_eq, measured_append, hsingle]
      exact List.mem_append_right _ List.mem_cons_self
    · have hfirst := hlast.nodup_measured
      rw [measured_append, hsingle] at hfirst
      rw [succeeded_eq app hlast.of_append]
      exact fun hn => (List.nodup_append.mp hfirst).2.2 _ hn _ List.mem_cons_self rfl
    · rw [succeeded_eq app hcourses, succeeded_eq app hlast, measured_append H₂]
      ext i
      simp [mem_measured_of_zero hnone i]
    · rw [hcount, timesMeasured_eq_ncard hafter, unsuccessful_eq app hcourses, unsuccessful_eq app hlast]
      congr 1
      ext i
      simp only [Set.mem_sdiff, Set.mem_ofPred_eq, measured_append H₂, List.mem_append]
      constructor
      · intro hi
        exact ⟨.inr hi, fun hbefore => hdisjoint _ hbefore _ hi rfl⟩
      · rintro ⟨hbefore | hi, hnot⟩
        · exact absurd hbefore hnot
        · exact hi

/-- **Metrics are exact in every interleaving.** Submissions and observations, any number of them and of
any applications, take turns with whatever measures nothing about tasks. Wherever this has come to, the
gauge of observed rollouts has grown by the number of observations that have begun and have not come to
their end, so that it is back when there are none; the counter of each application has grown by the number
of its tasks that were admitted; and its gauge of failures counts its observations that have ended with a
failure since the exchange with which the last of them ended with a deployed rollout, or, if none has, since
the start. -/
theorem metrics_exact (hs : Measuring s metrics)
    (h : Crew.Unfolds s (.ofPrograms (activities.map Activity.program) v) H c) :
    (metrics c.state).running = (metrics v).running + (underway activities H).ncard ∧
    (underway activities H = ∅ → (metrics c.state).running = (metrics v).running) ∧
    (∀ app, (metrics c.state).admitted app =
      (metrics v).admitted app + (admittedBy activities H app).ncard) ∧
    ∀ app,
      (succeeded activities H app = ∅ ∧ (metrics c.state).failures app =
        (metrics v).failures app + (unsuccessful activities H app).ncard) ∨
      ∃ H₁ n e H₂, H = H₁ ++ [(n, e)] ++ H₂ ∧
        n ∈ succeeded activities (H₁ ++ [(n, e)]) app \ succeeded activities H₁ app ∧
        succeeded activities H app = succeeded activities (H₁ ++ [(n, e)]) app ∧
        (metrics c.state).failures app =
          (unsuccessful activities H app \ unsuccessful activities (H₁ ++ [(n, e)]) app).ncard := by
  have htally : Tally (metrics v) H (metrics c.state) := h.tally hs (Crew.tidy_ofPrograms _ v)
  have hcourses := Courses.of_unfolds h
  have hrunning := running_exact htally hcourses
  refine ⟨hrunning, fun hnone => ?_, fun app => ?_, failures_exact htally hcourses⟩
  · rw [hrunning, hnone, Set.ncard_empty, Nat.cast_zero, add_zero]
  · rw [htally.admitted, admittedBy_eq app hcourses, timesMeasured_eq_ncard hcourses.nodup_measured]

end Exact

namespace Simulation

theorem World.measuring : Measuring surroundings World.metrics where
  recorded _ _ := rfl
  kept r w hr := by
    show (answer r w).2.metrics = w.metrics
    cases r with
    | record m => exact absurd rfl (hr m)
    | application name =>
      show ((w.log (.askedApplication name)).nextApplication name).2.metrics = _
      unfold nextApplication
      split <;> rfl
    | addTask sub =>
      show (w.addTask sub).2.metrics = _
      unfold addTask
      split <;> rfl
    | setStatus id status reason =>
      show (w.setStatus id status reason).2.metrics = _
      unfold setStatus
      dsimp only
      split <;> rfl
    | sweep staleness =>
      show (w.sweep staleness).2.metrics = _
      unfold sweep
      dsimp only
      split <;> rfl
    | run command =>
      show (w.call command).2.metrics = _
      unfold call
      split <;> rfl
    | acquire key =>
      show (w.noteKey key).metrics = _
      unfold noteKey
      split <;> rfl
    | _ => rfl
  passing _ _ := rfl

/-- A rollout that fails at once, and a submission of the same application. -/
def twoRollouts : List Activity :=
  let submission : Submission := { app := "demo", images := [⟨"demo/nginx", "v1"⟩] }
  [.observation {} (submission.toTask .nil (.ofNanos 0)), .submission {} submission]

/-- **The first rollout has failed, and the second one is observed.** -/
theorem metrics_exact_two_rollouts : ∃ H ended,
    Crew.Unfolds World.surroundings (.ofPrograms (twoRollouts.map Activity.program) { now := 0 }) H ended ∧
    (underway twoRollouts H).ncard = 1 ∧ (admittedBy twoRollouts H "demo").ncard = 1 ∧
    ended.state.metrics.failures "demo" = 1 := by
  obtain ⟨start, hstart⟩ : ∃ start : Crew World Unit,
    start = .ofPrograms (twoRollouts.map Activity.program) { now := 0 } := ⟨_, rfl⟩
  obtain ⟨ended, hended⟩ : ∃ c, c = start.run World.surroundings 15 := ⟨_, rfl⟩
  have hone : ended.state.metrics.running = 1 ∧ ended.state.metrics.admitted "demo" = 1 ∧
      ended.state.metrics.failures "demo" = 1 := by
    subst hended hstart
    decide +kernel
  have hunfolds := Crew.run_unfolds World.surroundings start 15
  rw [← hended, hstart] at hunfolds
  obtain ⟨hrunning, -, hadmitted, -⟩ := metrics_exact World.measuring hunfolds
  have hdemo := hadmitted "demo"
  rw [hone.1, show (World.metrics { now := 0 }).running = 0 from rfl] at hrunning
  rw [hone.2.1, show (World.metrics { now := 0 }).admitted "demo" = 0 from rfl] at hdemo
  exact ⟨_, ended, hunfolds, by omega, by omega, hone.2.2⟩

end Simulation

end DeployWatch
