import DeployWatch.Proofs.Metrics.Measured
import DeployWatch.Proofs.Program.Unfolding
import Mathlib.Data.Set.Card

/-!
# The tally of an interleaving

* `measured`, `count_measured`: the metrics of tasks in an interleaving, by activity;
* `Metrics.Moved`, `Metrics.record_moved`: what one measurement does;
* `Measuring`: surroundings that keep metrics;
* `Tally`, **`Unfolds.tally`**: the metrics after an interleaving are told by the measurements in it;
* `timesMeasured_eq_ncard`: how often a metric was measured is how many have measured it.
-/

namespace DeployWatch

open Crew (own)

/-! ## Measurements -/

/-- The metrics of tasks in a history, each with the number of who has measured it. -/
def measured (H : List (Nat × Exchange)) : List (Nat × Metric) :=
  H.filterMap fun e => e.2.request.taskMetric?.map fun m => (e.1, m)

section Measured

variable {H : List (Nat × Exchange)} {n : Nat} {e : Exchange}

@[simp] theorem measured_append (H' : List (Nat × Exchange)) :
    measured (H ++ H') = measured H ++ measured H' :=
  List.filterMap_append

theorem measured_single :
    measured [(n, e)] = (e.request.taskMetric?.map fun m => (n, m)).toList := by
  cases he : e.request.taskMetric? <;> simp [measured, he]

theorem count_measured (H : List (Nat × Exchange)) (n : Nat) (m : Metric) :
    (measured H).count (n, m) = (metricsIn (own n H)).count m := by
  induction H with
  | nil => rfl
  | cons e H ih =>
    obtain ⟨i, e⟩ := e
    rw [show (i, e) :: H = [(i, e)] ++ H from rfl, measured_append, Crew.own_append, metricsIn_append,
      List.count_append, List.count_append, ih, measured_single]
    congr 1
    by_cases hi : n = i
    · subst hi
      rw [Crew.own_single]
      cases he : e.request.taskMetric? with
      | none => rw [metricsIn_cons_of_quiet he]; rfl
      | some m' =>
        rw [metricsIn_cons_of_metric he]
        simp [List.count_cons]
    · rw [Crew.own_single_of_ne hi]
      cases e.request.taskMetric? with
      | none => rfl
      | some m' => simp [Ne.symm hi]

theorem mem_measured {m : Metric} : (n, m) ∈ measured H ↔ m ∈ metricsIn (own n H) := by
  rw [← List.count_pos_iff, count_measured, List.count_pos_iff]

/-- Of pairs that are all different, as many have a second part as there are first parts with it. -/
theorem count_snd_eq_ncard {β : Type} [DecidableEq β] {L : List (Nat × β)} (hL : L.Nodup) (b : β) :
    (L.map (·.2)).count b = {n | (n, b) ∈ L}.ncard := by
  have hset : {n | (n, b) ∈ L} = ↑((L.filter fun e => e.2 = b).map (·.1)).toFinset := by
    ext n
    simp
  have hnodup : ((L.filter fun e => e.2 = b).map (·.1)).Nodup := by
    refine (hL.filter _).map_on fun e he e' he' heq => ?_
    have hb := of_decide_eq_true (List.mem_filter.mp he).2
    have hb' := of_decide_eq_true (List.mem_filter.mp he').2
    exact Prod.ext heq (hb.trans hb'.symm)
  rw [hset, Set.ncard_coe_finset, List.toFinset_card_of_nodup hnodup, List.length_map,
    List.count_eq_countP, List.countP_map, ← List.countP_eq_length_filter]
  exact List.countP_congr fun e _ => by simp

end Measured

/-! ## Metrics -/

namespace Metrics

/-- The gauge of observed rollouts; a gauge that was never touched shows nothing. -/
def running (m : Metrics) : Int := m.inProgress.getD 0

/-- The counter of an application's admitted tasks. -/
def admitted (m : Metrics) (app : String) : Nat := (m.processed.find? app).getD 0

/-- The gauge of an application's failed rollouts. -/
def failures (m : Metrics) (app : String) : Nat := (m.failed.find? app).getD 0

/-- What the measurement of a task, if there is one, does to the metrics. -/
structure Moved (now now' : Metrics) (m? : Option Metric) : Prop where
  running : now'.running + (if m? = some .left then 1 else 0) =
    now.running + if m? = some .entered then 1 else 0
  admitted : ∀ app, now'.admitted app =
    now.admitted app + if m? = some (.processed app) then 1 else 0
  failures : ∀ app, now'.failures app =
    if m? = some (.reset app) then 0
    else now.failures app + if m? = some (.failed app) then 1 else 0

theorem Moved.refl (now : Metrics) : Moved now now none where
  running := rfl
  admitted _ := rfl
  failures _ := rfl

theorem record_moved (now : Metrics) (m : Metric) :
    Moved now (now.record m) (Request.record m).taskMetric? where
  running := by
    cases m <;> simp [Metrics.running, record, Request.taskMetric?]
  admitted app := by
    cases m with
    | processed app' =>
      by_cases happ : app' = app <;>
        simp [Metrics.admitted, record, Request.taskMetric?, SortedMap.find?_insert, happ]
    | _ => simp [Metrics.admitted, record, Request.taskMetric?]
  failures app := by
    cases m with
    | failed app' =>
      by_cases happ : app' = app <;>
        simp [Metrics.failures, record, Request.taskMetric?, SortedMap.find?_insert, happ]
    | reset app' =>
      by_cases happ : app' = app <;>
        simp [Metrics.failures, record, Request.taskMetric?, SortedMap.find?_insert, happ]
    | _ => simp [Metrics.failures, record, Request.taskMetric?]

end Metrics

/-- Surroundings that keep metrics and change them as they are told, and by nothing else. -/
structure Measuring {σ : Type} (s : Surroundings σ) (metrics : σ → Metrics) : Prop where
  recorded : ∀ m v, metrics (s.answer (.record m) v).2 = (metrics v).record m
  kept : ∀ r v, (∀ m, r ≠ .record m) → metrics (s.answer r v).2 = metrics v
  passing : ∀ time v, metrics (s.atTime time v) = metrics v

namespace Measuring

variable {σ : Type} {s : Surroundings σ} {metrics : σ → Metrics} (hs : Measuring s metrics)

include hs

theorem moved (r : Request) (v : σ) :
    (metrics v).Moved (metrics (s.answer r v).2) r.taskMetric? := by
  by_cases hr : ∃ m, r = .record m
  · obtain ⟨m, rfl⟩ := hr
    rw [hs.recorded]
    exact Metrics.record_moved _ m
  · rw [not_exists] at hr
    have hnone : r.taskMetric? = none := by
      cases r <;> first | rfl | exact absurd rfl (hr _)
    rw [hs.kept r v hr, hnone]
    exact .refl _

theorem passes {v v' : σ} (h : Floor.Passes s v v') : metrics v' = metrics v := by
  rcases h with rfl | ⟨time, rfl⟩
  · rfl
  · exact hs.passing time v

end Measuring

/-! ## The tally of an interleaving -/

/-- How often a metric of tasks was measured. -/
def timesMeasured (m : Metric) (H : List (Nat × Exchange)) : Nat := ((measured H).map (·.2)).count m

theorem timesMeasured_append (m : Metric) (H H' : List (Nat × Exchange)) :
    timesMeasured m (H ++ H') = timesMeasured m H + timesMeasured m H' := by
  rw [timesMeasured, measured_append, List.map_append, List.count_append]
  rfl

theorem timesMeasured_single (m : Metric) (n : Nat) (e : Exchange) :
    timesMeasured m [(n, e)] = if e.request.taskMetric? = some m then 1 else 0 := by
  rw [timesMeasured, measured_single]
  cases e.request.taskMetric? with
  | none => rfl
  | some m' => simp [List.count_cons]

/-- How often a metric was measured is how many have measured it, if no one has done so twice. -/
theorem timesMeasured_eq_ncard {H : List (Nat × Exchange)} (hH : (measured H).Nodup) (m : Metric) :
    timesMeasured m H = {n | (n, m) ∈ measured H}.ncard :=
  count_snd_eq_ncard hH m

theorem finite_measured (H : List (Nat × Exchange)) (m : Metric) :
    {n | (n, m) ∈ measured H}.Finite :=
  ((measured H).map (·.1)).finite_toSet.subset fun _ hn => List.mem_map.mpr ⟨_, hn, rfl⟩

theorem mem_measured_of_zero {H : List (Nat × Exchange)} {m : Metric} (hzero : timesMeasured m H = 0)
    (n : Nat) : (n, m) ∉ measured H :=
  fun hn => List.count_eq_zero.mp hzero (List.mem_map.mpr ⟨_, hn, rfl⟩)

/-- The metrics are told by what was measured since they were `before`. What an application's gauge of
failures was before its last success does not matter. -/
structure Tally (before : Metrics) (H : List (Nat × Exchange)) (now : Metrics) : Prop where
  running : now.running + timesMeasured .left H = before.running + timesMeasured .entered H
  admitted : ∀ app, now.admitted app = before.admitted app + timesMeasured (.processed app) H
  failures : ∀ app,
    timesMeasured (.reset app) H = 0 ∧
      now.failures app = before.failures app + timesMeasured (.failed app) H ∨
    ∃ H₁ n e H₂, H = H₁ ++ (n, e) :: H₂ ∧ e.request.taskMetric? = some (.reset app) ∧
      timesMeasured (.reset app) H₂ = 0 ∧ now.failures app = timesMeasured (.failed app) H₂

namespace Tally

variable {before now now' : Metrics} {H : List (Nat × Exchange)}

theorem start (before : Metrics) : Tally before [] before where
  running := rfl
  admitted _ := rfl
  failures _ := .inl ⟨rfl, rfl⟩

/-- **One exchange more.** -/
theorem snoc {n : Nat} {e : Exchange} (h : Tally before H now)
    (hmoved : now.Moved now' e.request.taskMetric?) : Tally before (H ++ [(n, e)]) now' where
  running := by
    have hbefore := h.running
    have hstep := hmoved.running
    rw [timesMeasured_append, timesMeasured_append, timesMeasured_single, timesMeasured_single]
    push_cast
    omega
  admitted app := by
    rw [hmoved.admitted, h.admitted, timesMeasured_append, timesMeasured_single, Nat.add_assoc]
  failures app := by
    rw [hmoved.failures]
    -- A success starts the count anew; everything else is one more exchange after the last one.
    by_cases hreset : e.request.taskMetric? = some (.reset app)
    · exact .inr ⟨H, n, e, [], rfl, hreset, rfl, if_pos hreset⟩
    · have hquiet : timesMeasured (.reset app) [(n, e)] = 0 := by
        rw [timesMeasured_single, if_neg hreset]
      rw [if_neg hreset, ← timesMeasured_single (.failed app) n e]
      rcases h.failures app with ⟨hnone, hcount⟩ | ⟨H₁, n', e', H₂, rfl, he', hnone, hcount⟩
      · refine .inl ⟨?_, ?_⟩
        · rw [timesMeasured_append, hnone, hquiet]
        · rw [timesMeasured_append, hcount, Nat.add_assoc]
      · refine .inr ⟨H₁, n', e', H₂ ++ [(n, e)], by simp, he', ?_, ?_⟩
        · rw [timesMeasured_append, hnone, hquiet]
        · rw [timesMeasured_append, hcount]

end Tally

/-- **The metrics after an interleaving** are told by what was measured in it. -/
theorem Crew.Unfolds.tally {σ α : Type} {s : Surroundings σ} {metrics : σ → Metrics} {start c : Crew σ α}
    {H : List (Nat × Exchange)} (hs : Measuring s metrics) (htidy : start.Tidy)
    (h : Unfolds s start H c) : Tally (metrics start.state) H (metrics c.state) := by
  refine (h.invariant (I := fun H F => Tally (metrics start.state) H (metrics F.state)) htidy (.start _)
    fun H F es F' htally hmoves => ?_).2
  cases hmoves with
  | quiet _ hpasses =>
    rw [List.append_nil, hs.passes hpasses]
    exact htally
  | asks _ _ _ hpasses =>
    rw [hs.passes hpasses]
    exact htally.snoc (hs.moved _ _)

end DeployWatch
