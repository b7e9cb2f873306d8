import DeployWatch.Proofs.Store.Runs
import DeployWatch.Proofs.Time.Order

/-!
# What a sweep does

* `get_filter`, `get_sweep`: what is found under an identifier after a sweep;
* `report_sweep`: what a sweep reports;
* `sweep_of_none`, `sweep_sweep`: sweeps that change nothing;
* `isRemovable_anti`, `isAbortable_anti`, `get_sweep_of_longer`: the longer tasks are kept, the fewer are
  swept;
* **`sweep_exact`**: which tasks a sweep removes, which it aborts, and what it leaves alone.
-/

namespace DeployWatch.TaskStore

open Time (Instant)

variable {st : TaskStore} {t : Task} {id : Uuid} {staleness : Nat} {start cutoff : Instant}
  {readings : Uuid → Instant}

theorem isAbortable_iff :
    isAbortable cutoff t = true ↔ t.status = .inProgress ∧ t.created < cutoff := by
  simp [isAbortable]

/-- What may be aborted may not be removed. -/
theorem isRemovable_of_isAbortable (h : isAbortable cutoff t = true) :
    isRemovable cutoff t = false := by
  rw [isAbortable_iff] at h
  simp [isRemovable, h.1]

/-! ## One sweep -/

/-- Leaving tasks out changes what is found under their identifiers. -/
theorem get_filter (hst : st.ids.Nodup) (keep : Task → Bool) (id : Uuid) :
    get ⟨st.tasks.filter keep⟩ id = match st.get id with
      | .ok t => if keep t then .ok t else .error (.notFound id)
      | .error e => .error e := by
  have hkept : (ids ⟨st.tasks.filter keep⟩).Nodup := (List.filter_sublist.map _).nodup hst
  have hgone : id ∉ ids ⟨st.tasks.filter keep⟩ →
      get ⟨st.tasks.filter keep⟩ id = .error (.notFound id) := fun h => get_eq_error.mpr ⟨rfl, h⟩
  cases hget : st.get id with
  | error e =>
    obtain ⟨rfl, hid⟩ := get_eq_error.mp hget
    exact hgone fun h => hid ((List.filter_sublist.map _).subset h)
  | ok t =>
    obtain ⟨ht, hid⟩ := (get_eq_ok hst).mp hget
    dsimp only
    split
    · rename_i hkeep
      exact (get_eq_ok hkept).mpr ⟨List.mem_filter.mpr ⟨ht, hkeep⟩, hid⟩
    · rename_i hkeep
      refine hgone fun h => hkeep ?_
      obtain ⟨u, hu, hut⟩ := List.mem_map.mp h
      obtain ⟨hmem, hu⟩ := List.mem_filter.mp hu
      rwa [eq_of_id hst ht hmem (hid.trans hut.symm)]

/-- **What a sweep leaves under an identifier.** -/
theorem get_sweep (hst : st.ids.Nodup) (staleness : Nat) (start : Instant) (readings : Uuid → Instant)
    (id : Uuid) : (st.sweep staleness start readings).1.get id = match st.get id with
      | .ok t =>
        if isRemovable (staleCutoff start staleness) t then .error (.notFound id)
        else if isAbortable (staleCutoff start staleness) t then
          .ok (t.withStatus .aborted abortedReason (readings t.id))
        else .ok t
      | .error e => .error e := by
  show get ⟨List.map _ _⟩ id = _
  rw [get_map (fun u => by split <;> rfl), get_filter hst]
  cases st.get id with
  | error e => rfl
  | ok t =>
    cases hremove : isRemovable (staleCutoff start staleness) t <;>
      cases habort : isAbortable (staleCutoff start staleness) t <;>
        simp [Except.map, hremove, habort]

theorem report_sweep (st : TaskStore) (staleness : Nat) (start : Instant) (readings : Uuid → Instant) :
    (st.sweep staleness start readings).2 =
      ⟨st.tasks.countP (isRemovable (staleCutoff start staleness)),
        st.tasks.countP (isAbortable (staleCutoff start staleness))⟩ := by
  show SweepReport.mk _ _ = _
  rw [List.countP_filter]
  congr 1
  refine List.countP_congr fun t _ => ?_
  rw [Bool.and_eq_true, and_iff_left_iff_imp]
  intro h
  rw [isRemovable_of_isAbortable h]
  rfl

/-! ## Sweeps that change nothing -/

theorem sweep_of_none (h : ∀ t ∈ st.tasks, isRemovable (staleCutoff start staleness) t = false ∧
    isAbortable (staleCutoff start staleness) t = false) :
    st.sweep staleness start readings = (st, ⟨0, 0⟩) := by
  refine Prod.ext ?_ ?_
  · have hkept : st.tasks.filter (fun t => !isRemovable (staleCutoff start staleness) t) = st.tasks :=
      List.filter_eq_self.mpr fun t ht => by rw [(h t ht).1]; rfl
    show TaskStore.mk (List.map _ _) = st
    rw [hkept]
    congr 1
    refine (List.map_congr_left fun t ht => ?_).trans (List.map_id _)
    rw [(h t ht).2]
    rfl
  · rw [report_sweep, SweepReport.mk.injEq, List.countP_eq_zero, List.countP_eq_zero]
    exact ⟨fun t ht => by simp [(h t ht).1], fun t ht => by simp [(h t ht).2]⟩

/-- **A second sweep finds nothing to do.** -/
theorem sweep_sweep (st : TaskStore) (staleness : Nat) (start : Instant)
    (readings readings' : Uuid → Instant) :
    (st.sweep staleness start readings).1.sweep staleness start readings' =
      ((st.sweep staleness start readings).1, ⟨0, 0⟩) := by
  refine sweep_of_none fun t ht => ?_
  obtain ⟨u, hu, rfl⟩ := List.mem_map.mp ht
  have hkept := (List.mem_filter.mp hu).2
  rw [Bool.not_eq_true'] at hkept
  split
  · exact ⟨by simp [isRemovable, Task.withStatus], by simp [isAbortable, Task.withStatus]⟩
  · rename_i habort
    exact ⟨hkept, by simpa using habort⟩

/-! ## Longer times -/

section Longer

variable {larger : Nat} (hstart : start.Representable) (ht : t.created.Representable)
  (h : staleness ≤ larger)

include hstart ht h

theorem isRemovable_anti (hlarger : isRemovable (staleCutoff start larger) t = true) :
    isRemovable (staleCutoff start staleness) t = true := by
  rw [isRemovable_iff] at hlarger ⊢
  exact ⟨hlarger.1, Instant.before_anti hstart ht h hlarger.2⟩

theorem isAbortable_anti (hlarger : isAbortable (staleCutoff start larger) t = true) :
    isAbortable (staleCutoff start staleness) t = true := by
  rw [isAbortable_iff] at hlarger ⊢
  exact ⟨hlarger.1, Instant.before_anti hstart ht h hlarger.2⟩

end Longer

section Store

variable (hstart : start.Representable) (hcreated : ∀ t ∈ st.tasks, t.created.Representable)

include hstart hcreated

/-- What a sweep changes that keeps tasks for longer, this one changes alike. -/
theorem get_sweep_of_longer (hst : st.ids.Nodup) {larger : Nat} (h : staleness ≤ larger)
    (hchanged : (st.sweep larger start readings).1.get id ≠ st.get id) :
    (st.sweep staleness start readings).1.get id = (st.sweep larger start readings).1.get id := by
  rw [get_sweep hst] at hchanged ⊢
  rw [get_sweep hst]
  cases hget : st.get id with
  | error e => rfl
  | ok t =>
    have ht := hcreated t ((get_eq_ok hst).mp hget).1
    rw [hget] at hchanged
    dsimp only at hchanged ⊢
    by_cases hremoved : isRemovable (staleCutoff start larger) t = true
    · rw [if_pos hremoved, if_pos (isRemovable_anti hstart ht h hremoved)]
    · rw [if_neg hremoved] at hchanged ⊢
      by_cases haborted : isAbortable (staleCutoff start larger) t = true
      · have habort := isAbortable_anti hstart ht h haborted
        rw [if_pos haborted, isRemovable_of_isAbortable habort, if_pos habort]
        rfl
      · rw [if_neg haborted] at hchanged
        exact absurd rfl hchanged

/-- A time that reaches back further than the calendar makes no task stale. -/
theorem sweep_of_early (hearly : start.toNanos - staleness < Instant.least.toNanos) :
    st.sweep staleness start readings = (st, ⟨0, 0⟩) := by
  have hfresh : ∀ t ∈ st.tasks, ¬ t.created < staleCutoff start staleness :=
    fun t ht => Instant.not_lt_before hstart (hcreated t ht) hearly
  refine sweep_of_none fun t ht => ⟨?_, ?_⟩
  · simp [isRemovable, hfresh t ht]
  · simp [isAbortable, hfresh t ht]

end Store

/-! ## Exactness -/

/-- **A sweep removes the stale tasks whose application was not found, aborts the stale tasks in progress,
and leaves all others as they are.** A task is stale if it was created before the cutoff, which lies as
long before the start of the sweep as tasks are kept, in nanoseconds; if no such instant is in the range, no
task is stale. An aborted task is updated at what the clock says then. The report counts the removed and
the aborted tasks. The same sweep once more changes nothing, and all that a sweep changes which keeps tasks
for longer, this one changes alike. -/
theorem sweep_exact (hst : st.ids.Nodup) (hstart : start.Representable)
    (hcreated : ∀ t ∈ st.tasks, t.created.Representable) (staleness : Nat)
    (readings : Uuid → Instant) :
    let cutoff := start.add (-(staleness : Int))
    let after := (st.sweep staleness start readings).1
    let report := (st.sweep staleness start readings).2
    (start.inLeapSecond = false → cutoff = .ofNanos (start.toNanos - staleness)) ∧
    (∀ id, after.get id = match st.get id with
      | .ok t =>
        if t.status = .appNotFound ∧ t.created < cutoff then .error (.notFound id)
        else if t.status = .inProgress ∧ t.created < cutoff then
          .ok { t with
            status := .aborted
            reason := abortedReason
            updated := nextUpdate t.updated (readings t.id) }
        else .ok t
      | .error e => .error e) ∧
    report.removed = st.tasks.countP (fun t => t.status = .appNotFound ∧ t.created < cutoff) ∧
    report.aborted = st.tasks.countP (fun t => t.status = .inProgress ∧ t.created < cutoff) ∧
    (start.toNanos - staleness < Instant.least.toNanos →
      st.sweep staleness start readings = (st, ⟨0, 0⟩)) ∧
    (∀ readings', after.sweep staleness start readings' = (after, ⟨0, 0⟩)) ∧
    ∀ larger ≥ staleness, ∀ id, (st.sweep larger start readings).1.get id ≠ st.get id →
      after.get id = (st.sweep larger start readings).1.get id := by
  intro cutoff after report
  have hstale : ∀ t ∈ st.tasks, t.created < staleCutoff start staleness ↔ t.created < cutoff :=
    fun t ht => Instant.lt_before_iff hstart (hcreated t ht) staleness
  have hremovable : ∀ t ∈ st.tasks, isRemovable (staleCutoff start staleness) t = true ↔
      t.status = .appNotFound ∧ t.created < cutoff := fun t ht => by
    rw [isRemovable_iff, hstale t ht]
  have habortable : ∀ t ∈ st.tasks, isAbortable (staleCutoff start staleness) t = true ↔
      t.status = .inProgress ∧ t.created < cutoff := fun t ht => by
    rw [isAbortable_iff, hstale t ht]
  refine ⟨fun hregular => Instant.add_of_regular hregular _, fun id => ?_, ?_, ?_,
    sweep_of_early hstart hcreated, sweep_sweep st staleness start readings,
    fun larger hlarger id => get_sweep_of_longer hstart hcreated hst hlarger⟩
  · rw [get_sweep hst]
    cases hget : st.get id with
    | error e => rfl
    | ok t =>
      have ht := ((get_eq_ok hst).mp hget).1
      simp only [hremovable t ht, habortable t ht]
      rfl
  · show (st.sweep staleness start readings).2.removed = _
    rw [report_sweep]
    exact List.countP_congr fun t ht => by rw [hremovable t ht, decide_eq_true_eq]
  · show (st.sweep staleness start readings).2.aborted = _
    rw [report_sweep]
    exact List.countP_congr fun t ht => by rw [habortable t ht, decide_eq_true_eq]

/-- A task without an application, one created at the cutoff, one in progress and a deployed one. -/
def agedStore : TaskStore where
  tasks := [(0, .appNotFound, 4), (1, .appNotFound, 5), (2, .inProgress, 4), (3, .deployed, 0)].map
    fun ((n, status, created) : BitVec 128 × Status × Int) =>
      { ({ app := "shop" } : Submission).toTask ⟨n⟩ (.ofNanos created) with status := status }

theorem sweep_exact_at_cutoff :
    let swept := agedStore.sweep 5 (.ofNanos 10) fun _ => .ofNanos 12
    let after := swept.1
    let report := swept.2
    agedStore.ids.Nodup ∧ (Instant.ofNanos 10).Representable ∧
    (∀ t ∈ agedStore.tasks, t.created.Representable) ∧
    after.get ⟨0⟩ = .error (.notFound ⟨0⟩) ∧ after.get ⟨1⟩ = agedStore.get ⟨1⟩ ∧
    (after.get ⟨2⟩).map (fun t => (t.status, t.updated)) = .ok (.aborted, .ofNanos 12) ∧
    report.removed = 1 ∧ report.aborted = 1 ∧
    after.sweep 5 (.ofNanos 10) (fun _ => .ofNanos 20) = (after, ⟨0, 0⟩) := by
  have hids : agedStore.ids.Nodup := by decide +kernel
  have hstart : (Instant.ofNanos 10).Representable := by decide
  have hcreated : ∀ t ∈ agedStore.tasks, t.created.Representable := by decide +kernel
  obtain ⟨-, hget, hremoved, haborted, -, hagain, -⟩ :=
    sweep_exact hids hstart hcreated 5 fun _ => .ofNanos 12
  refine ⟨hids, hstart, hcreated, (hget ⟨0⟩).trans ?_, (hget ⟨1⟩).trans ?_, ?_, hremoved.trans ?_,
    haborted.trans ?_, hagain _⟩
  · decide +kernel
  · decide +kernel
  · rw [hget]
    decide +kernel
  · decide +kernel
  · decide +kernel

end DeployWatch.TaskStore
