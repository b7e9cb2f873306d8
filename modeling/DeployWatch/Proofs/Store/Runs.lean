import DeployWatch.Proofs.Store.Effects
import Mathlib.Data.List.Induction

/-!
# Runs of the task store

The store from its start on, under any calls that change it, each with the times it reads and the
identifier it issues.

* `TaskStore.Call`, `TaskStore.after`, `TaskStore.run`, `TaskStore.reports`: calls, the stores they lead
  to and what the sweeps among them report;
* `get_eq_ok`, `get_eq_error`, `get_map`, `get_setStatus`: the store by identifier;
* `add_of_not_mem`, `after_keeps`, `gone_of_removable`, `size_after`: what one call does to the tasks
  that are there;
* `Deleted`: a sweep in a run has deleted a task;
* `Accounts`, `Accounts.step`, `run_accounts`: what has become of all tasks of a run;
* **`run_accounts_for_every_task`**: no run loses, doubles or rewrites a task.
-/

namespace DeployWatch.TaskStore

open Time (Instant)

/-! ## Calls -/

/-- A call that may change the store, with all that it reads from the clock. -/
inductive Call
  | add (s : Submission) (id : Uuid) (now : Instant)
  | set (id : Uuid) (status : Status) (reason : String) (now : Instant)
  | sweep (staleness : Nat) (start : Instant) (readings : Uuid → Instant)

/-- The identifier that a call issues. -/
def Call.issued? : Call → Option Uuid
  | add _ id _ => some id
  | _ => none

/-- The identifiers that calls issue. -/
def issued (calls : List Call) : List Uuid := calls.filterMap Call.issued?

/-- The store after a call; a write that is refused leaves it as it is. -/
def after (st : TaskStore) : Call → TaskStore
  | .add s id now => (st.add s id now).1
  | .set id status reason now => (st.setStatus id status reason now).toOption.getD st
  | .sweep staleness start readings => (st.sweep staleness start readings).1

/-- What a call reports if it is a sweep. -/
def report? (st : TaskStore) : Call → Option SweepReport
  | .sweep staleness start readings => some (st.sweep staleness start readings).2
  | _ => none

/-- The store after calls, which starts empty. -/
def run (calls : List Call) : TaskStore := calls.foldl after {}

/-- The reports of the sweeps among calls, from a store on. -/
def reports (st : TaskStore) : List Call → List SweepReport
  | [] => []
  | c :: calls => (st.report? c).toList ++ reports (st.after c) calls

/-- How many tasks reports say to have been removed. -/
def removed : List SweepReport → Nat
  | [] => 0
  | r :: rs => r.removed + removed rs

theorem after_set_of_ok {st st' : TaskStore} {id : Uuid} {status : Status} {reason : String}
    {now : Instant} (h : st.setStatus id status reason now = .ok st') :
    st.after (.set id status reason now) = st' := by
  rw [after, h]
  rfl

theorem after_set_of_error {st : TaskStore} {id : Uuid} {status : Status} {reason : String}
    {now : Instant} {e : StoreError} (h : st.setStatus id status reason now = .error e) :
    st.after (.set id status reason now) = st := by
  rw [after, h]
  rfl

theorem run_snoc (calls : List Call) (c : Call) : run (calls ++ [c]) = (run calls).after c := by
  simp [run]

theorem reports_snoc (st : TaskStore) (calls : List Call) (c : Call) :
    reports st (calls ++ [c]) = reports st calls ++ ((calls.foldl after st).report? c).toList := by
  induction calls generalizing st with
  | nil => simp [reports]
  | cons c' calls ih => simp [reports, ih]

theorem removed_append (rs rs' : List SweepReport) : removed (rs ++ rs') = removed rs + removed rs' := by
  induction rs with
  | nil => simp [removed]
  | cons r rs ih => rw [List.cons_append, removed, removed, ih, Nat.add_assoc]

theorem issued_snoc (calls : List Call) (c : Call) :
    issued (calls ++ [c]) = issued calls ++ c.issued?.toList := by
  cases h : c.issued? <;> simp [issued, h]

theorem mem_issued {calls : List Call} {id : Uuid} :
    id ∈ issued calls ↔ ∃ s now, .add s id now ∈ calls := by
  unfold issued
  rw [List.mem_filterMap]
  constructor
  · rintro ⟨c, hc, hid⟩
    cases c with
    | add s id' now =>
      cases hid
      exact ⟨s, now, hc⟩
    | set => cases hid
    | sweep => cases hid
  · rintro ⟨s, now, hc⟩
    exact ⟨_, hc, rfl⟩

/-- The exchange that a call is. -/
def Call.exchange (st : TaskStore) : Call → Exchange
  | add s id now => ⟨.addTask s, .ok (st.add s id now).2⟩
  | set id status reason now =>
    ⟨.setStatus id status reason, (st.setStatus id status reason now).map fun _ => ()⟩
  | sweep staleness start readings => ⟨.sweep staleness, .ok (st.sweep staleness start readings).2⟩

/-- Calls are exchanges that change the store as such exchanges may. -/
theorem effect_after (st : TaskStore) (c : Call) : st.Effect (c.exchange st) (st.after c) := by
  cases c with
  | add s id now => exact .add s id now
  | set id status reason now =>
    cases h : st.setStatus id status reason now with
    | error e =>
      rw [after_set_of_error h]
      exact .keep _
    | ok st' =>
      rw [after_set_of_ok h, Call.exchange, h]
      exact .set h
  | sweep staleness start readings => exact .sweep staleness start readings

theorem Call.eq_add {st : TaskStore} {c : Call} {s : Submission} {id : Uuid} {now : Instant}
    (h : c.exchange st = ⟨.addTask s, .ok (s.toTask id now)⟩) : c = .add s id now := by
  cases c with
  | add s' id' now' =>
    obtain ⟨hs, hanswer⟩ := Exchange.mk.inj h
    cases hs
    have htask : s.toTask id' now' = s.toTask id now := Except.ok.inj (eq_of_heq hanswer)
    rw [show id' = id from congrArg Task.id htask, show now' = now from congrArg Task.created htask]
  | set => cases (Exchange.mk.inj h).1
  | sweep => cases (Exchange.mk.inj h).1

/-! ## The store by identifier -/

variable {st st' : TaskStore} {t u : Task} {id : Uuid}

/-- The identifiers of the stored tasks. -/
def ids (st : TaskStore) : List Uuid := st.tasks.map (·.id)

theorem get_eq_error {e : StoreError} : st.get id = .error e ↔ e = .notFound id ∧ id ∉ st.ids := by
  unfold get ids
  cases h : st.tasks.find? fun t => t.id = id with
  | none =>
    rw [List.find?_eq_none] at h
    have hid : id ∉ st.tasks.map (·.id) := by simpa using h
    simp only [Except.error.injEq, hid, not_false_eq_true, and_true, eq_comm]
  | some t =>
    have hid : id ∈ st.tasks.map (·.id) :=
      List.mem_map.mpr ⟨t, List.mem_of_find?_eq_some h, by simpa using List.find?_some h⟩
    simp only [reduceCtorEq, hid, not_true_eq_false, and_false]

theorem eq_of_id (hst : st.ids.Nodup) (ht : t ∈ st.tasks) (hu : u ∈ st.tasks) (h : t.id = u.id) :
    t = u := List.inj_on_of_nodup_map hst ht hu h

theorem get_eq_ok (hst : st.ids.Nodup) : st.get id = .ok t ↔ t ∈ st.tasks ∧ t.id = id := by
  unfold get
  cases h : st.tasks.find? fun t => t.id = id with
  | none =>
    rw [List.find?_eq_none] at h
    simp only [reduceCtorEq, false_iff, not_and]
    exact fun ht hid => h t ht (by simpa using hid)
  | some u =>
    have hu := List.mem_of_find?_eq_some h
    have hid : u.id = id := by simpa using List.find?_some h
    simp only [Except.ok.injEq]
    constructor
    · rintro rfl
      exact ⟨hu, hid⟩
    · rintro ⟨ht, hid'⟩
      exact eq_of_id hst hu ht (hid.trans hid'.symm)

/-- A write to a task that is not stored is refused. -/
theorem setStatus_of_not_mem (h : id ∉ st.ids) (status : Status) (reason : String) (now : Instant) :
    st.setStatus id status reason now = .error (.notFound id) := by
  have hany : (st.tasks.any fun t => t.id = id) = false := by simpa [ids] using h
  rw [setStatus, hany]
  rfl

theorem id_of_get (h : st.get id = .ok t) : t.id = id := by
  unfold get at h
  cases hfind : st.tasks.find? fun t => t.id = id with
  | none => rw [hfind] at h; cases h
  | some u =>
    rw [hfind] at h
    cases h
    simpa using List.find?_some hfind

/-- A change of all tasks that keeps their identifiers changes what is found under them. -/
theorem get_map {change : Task → Task} (hchange : ∀ t, (change t).id = t.id) (id : Uuid) :
    get ⟨st.tasks.map change⟩ id = (st.get id).map change := by
  unfold get
  rw [List.find?_map]
  simp only [Function.comp_def, hchange]
  cases st.tasks.find? fun t => t.id = id <;> rfl

/-- A write changes one task and leaves all others as they are. -/
theorem get_setStatus (ht : st.get id = .ok t) (status : Status) (reason : String) (now : Instant) :
    ∃ st', st.setStatus id status reason now = .ok st' ∧ st'.size = st.size ∧
      ∀ other, st'.get other =
        if other = id then .ok (t.withStatus status reason now) else st.get other := by
  have hmem : id ∈ st.ids := by
    by_contra h
    rw [get_eq_error.mpr ⟨rfl, h⟩] at ht
    cases ht
  have hany : (st.tasks.any fun t => t.id = id) = true := by simpa [ids] using hmem
  refine ⟨_, by rw [setStatus, hany]; rfl, List.length_map _, fun other => ?_⟩
  rw [get_map fun u => by split <;> rfl]
  by_cases hother : other = id
  · rw [if_pos hother, hother, ht, Except.map, if_pos (id_of_get ht)]
  · rw [if_neg hother]
    cases hget : st.get other with
    | error e => rfl
    | ok u =>
      have hu : u.id ≠ id := fun h => hother ((id_of_get hget).symm.trans h)
      rw [Except.map, if_neg hu]

/-! ## One call -/

/-- A task with a new identifier is added to all that are stored. -/
theorem add_of_not_mem (h : id ∉ st.ids) (s : Submission) (now : Instant) :
    (st.add s id now).1.tasks = st.tasks ++ [s.toTask id now] := by
  have hkept : st.tasks.filter (fun u => u.id ≠ id) = st.tasks := by
    refine List.filter_eq_self.mpr fun u hu => decide_eq_true fun hid => ?_
    exact h (List.mem_map.mpr ⟨u, hu, hid⟩)
  show st.tasks.filter (fun u => u.id ≠ id) ++ [s.toTask id now] = _
  rw [hkept]

/-- **A stored task stays, as it was admitted**, unless its identifier is issued again or a sweep may
remove it. -/
theorem after_keeps (ht : t ∈ st.tasks) (c : Call) (hid : c.issued? ≠ some t.id) :
    (∃ t' ∈ (st.after c).tasks, t'.asAdmitted = t.asAdmitted) ∨
      ∃ staleness start readings, c = .sweep staleness start readings ∧
        isRemovable (staleCutoff start staleness) t = true := by
  cases c with
  | add s id now =>
    refine .inl ⟨t, List.mem_append_left _ (List.mem_filter.mpr ⟨ht, ?_⟩), rfl⟩
    exact decide_eq_true fun h => hid (congrArg some h.symm)
  | set id status reason now =>
    cases h : st.setStatus id status reason now with
    | error e => exact .inl ⟨t, (after_set_of_error h).symm ▸ ht, rfl⟩
    | ok st' =>
      rw [after_set_of_ok h, setStatus_eq_ok h]
      refine .inl ⟨_, List.mem_map_of_mem ht, ?_⟩
      split <;> rfl
  | sweep staleness start readings =>
    by_cases hremovable : isRemovable (staleCutoff start staleness) t = true
    · exact .inr ⟨staleness, start, readings, rfl, hremovable⟩
    · refine .inl ⟨_, List.mem_map_of_mem (List.mem_filter.mpr ⟨ht, ?_⟩), ?_⟩
      · simpa using hremovable
      · split <;> rfl

/-- **What a sweep may remove is gone after it.** -/
theorem gone_of_removable (hst : st.ids.Nodup) (ht : t ∈ st.tasks) {staleness : Nat} {start : Instant}
    (h : isRemovable (staleCutoff start staleness) t = true) (readings : Uuid → Instant) :
    t.id ∉ (st.after (.sweep staleness start readings)).ids := by
  have hids : (st.after (.sweep staleness start readings)).ids =
      (st.tasks.filter fun u => !isRemovable (staleCutoff start staleness) u).map (·.id) :=
    ids_map (fun u => by split <;> rfl) _
  rw [hids]
  intro hid
  obtain ⟨u, hu, hut⟩ := List.mem_map.mp hid
  obtain ⟨hmem, hkept⟩ := List.mem_filter.mp hu
  rw [eq_of_id hst hmem ht hut, h] at hkept
  cases hkept

/-- What is stored after a call was stored before, or the call has admitted it. -/
theorem stored_or_admitted {c : Call} (ht : t ∈ (st.after c).tasks) :
    (∃ u ∈ st.tasks, u.asAdmitted = t.asAdmitted) ∨
      ∃ s id now, c = .add s id now ∧ t = s.toTask id now := by
  cases (effect_after st c).becomes ht with
  | stays ht => exact .inl ⟨t, ht, rfl⟩
  | admitted he => exact .inr ⟨_, _, _, Call.eq_add he, rfl⟩
  | written now hu _ => exact .inl ⟨_, hu, rfl⟩
  | aborted now hu _ => exact .inl ⟨_, hu, rfl⟩

/-- **A call that issues no stored identifier adds what it issues**, and what is gone after it was
reported as removed. -/
theorem size_after (c : Call) (hnew : ∀ id, c.issued? = some id → id ∉ st.ids) :
    (st.after c).size + removed (st.report? c).toList = st.size + c.issued?.toList.length := by
  cases c with
  | add s id now =>
    show (st.add s id now).1.tasks.length + 0 = _
    rw [add_of_not_mem (hnew id rfl), List.length_append]
    rfl
  | set id status reason now =>
    show (st.after (.set id status reason now)).size + 0 = st.size + 0
    cases h : st.setStatus id status reason now with
    | error e => rw [after_set_of_error h]
    | ok st' => rw [after_set_of_ok h, size, setStatus_eq_ok h, List.length_map, size]
  | sweep staleness start readings =>
    have hsplit := List.length_eq_countP_add_countP (isRemovable (staleCutoff start staleness))
      (l := st.tasks)
    show (List.map _ (st.tasks.filter _)).length + (st.tasks.countP _ + 0) = st.tasks.length + 0
    rw [List.length_map, ← List.countP_eq_length_filter, hsplit]
    simp only [Bool.not_eq_true, Bool.decide_eq_false]
    omega

/-! ## Runs -/

/-- A sweep among the calls has deleted a task, which stood as `t` then: its application was not found,
and it was created before the cutoff of that sweep. -/
def Deleted (calls : List Call) (t : Task) : Prop :=
  ∃ before staleness start readings rest, calls = before ++ .sweep staleness start readings :: rest ∧
    t ∈ (run before).tasks ∧ t.status = .appNotFound ∧ t.created < staleCutoff start staleness

theorem isRemovable_iff {cutoff : Instant} :
    isRemovable cutoff t = true ↔ t.status = .appNotFound ∧ t.created < cutoff := by
  simp [isRemovable]

theorem deleted_snoc {calls : List Call} {c : Call} : Deleted (calls ++ [c]) t ↔
    Deleted calls t ∨ ∃ staleness start readings, c = .sweep staleness start readings ∧
      t ∈ (run calls).tasks ∧ isRemovable (staleCutoff start staleness) t = true := by
  simp only [isRemovable_iff]
  constructor
  · rintro ⟨before, staleness, start, readings, rest, hsplit, h⟩
    rcases List.eq_nil_or_concat rest with rfl | ⟨rest, last, rfl⟩
    · obtain ⟨rfl, hlast⟩ := List.append_inj' hsplit rfl
      exact .inr ⟨staleness, start, readings, List.singleton_inj.mp hlast, h⟩
    · rw [List.concat_eq_append, ← List.cons_append, ← List.append_assoc] at hsplit
      exact .inl ⟨before, staleness, start, readings, rest, (List.append_inj' hsplit rfl).1, h⟩
  · rintro (⟨before, staleness, start, readings, rest, rfl, h⟩ | ⟨staleness, start, readings, rfl, h⟩)
    · exact ⟨before, staleness, start, readings, rest ++ [c], by simp, h⟩
    · exact ⟨calls, staleness, start, readings, [], rfl, h⟩

/-- What has become of the tasks of a run. -/
structure Accounts (calls : List Call) : Prop where
  unique : (run calls).ids.Nodup
  admitted : ∀ t ∈ (run calls).tasks,
    ∃ s id now, .add s id now ∈ calls ∧ t.asAdmitted = s.toTask id now
  fate : ∀ s id now, .add s id now ∈ calls →
    (∃ t ∈ (run calls).tasks, t.asAdmitted = s.toTask id now) ∨
      ∃ t, Deleted calls t ∧ t.asAdmitted = s.toTask id now
  gone : ∀ t, Deleted calls t → t.id ∈ issued calls ∧ t.id ∉ (run calls).ids
  total : (run calls).size + removed (reports {} calls) = (issued calls).length

namespace Accounts

variable {calls : List Call} {c : Call}

theorem id_of_asAdmitted {s : Submission} {now : Instant} (h : t.asAdmitted = s.toTask id now) :
    t.id = id := congrArg Task.id h

theorem ids_issued (h : Accounts calls) {id : Uuid} (hid : id ∈ (run calls).ids) :
    id ∈ issued calls := by
  obtain ⟨t, ht, rfl⟩ := List.mem_map.mp hid
  obtain ⟨s, id, now, hadd, hadmitted⟩ := h.admitted t ht
  exact mem_issued.mpr ⟨s, now, id_of_asAdmitted hadmitted ▸ hadd⟩

/-- **One more call**, if the identifier that it issues is new. -/
theorem step (h : Accounts calls) (hnew : ∀ id, c.issued? = some id → id ∉ issued calls) :
    Accounts (calls ++ [c]) where
  unique := by
    rw [run_snoc]
    exact (effect_after _ c).nodup_ids h.unique
  admitted t ht := by
    rw [run_snoc] at ht
    rcases stored_or_admitted ht with ⟨u, hu, hut⟩ | ⟨s, id, now, rfl, rfl⟩
    · obtain ⟨s, id, now, hadd, hadmitted⟩ := h.admitted u hu
      exact ⟨s, id, now, List.mem_append_left _ hadd, hut.symm.trans hadmitted⟩
    · exact ⟨s, id, now, List.mem_append_right _ (List.mem_singleton.mpr rfl), rfl⟩
  fate s id now hadd := by
    rw [run_snoc]
    rcases List.mem_append.mp hadd with hadd | hadd
    · rcases h.fate s id now hadd with ⟨t, ht, hadmitted⟩ | ⟨t, hdeleted, hadmitted⟩
      · have hid : c.issued? ≠ some t.id := by
          intro hc
          rw [id_of_asAdmitted hadmitted] at hc
          exact hnew id hc (mem_issued.mpr ⟨s, now, hadd⟩)
        rcases after_keeps ht c hid with ⟨t', ht', hkept⟩ | ⟨staleness, start, readings, rfl, hremovable⟩
        · exact .inl ⟨t', ht', hkept.trans hadmitted⟩
        · exact .inr ⟨t, deleted_snoc.mpr (.inr ⟨staleness, start, readings, rfl, ht, hremovable⟩),
            hadmitted⟩
      · exact .inr ⟨t, deleted_snoc.mpr (.inl hdeleted), hadmitted⟩
    · obtain rfl := List.mem_singleton.mp hadd
      exact .inl ⟨s.toTask id now, List.mem_append_right _ (List.mem_singleton.mpr rfl), rfl⟩
  gone t hdeleted := by
    rw [run_snoc, issued_snoc]
    rcases deleted_snoc.mp hdeleted with hdeleted | ⟨staleness, start, readings, rfl, ht, hremovable⟩
    · obtain ⟨hissued, hgone⟩ := h.gone t hdeleted
      refine ⟨List.mem_append_left _ hissued, fun hid => ?_⟩
      obtain ⟨u, hu, hut⟩ := List.mem_map.mp hid
      rcases stored_or_admitted hu with ⟨u', hu', hsame⟩ | ⟨s, id, now, rfl, rfl⟩
      · have hid' : u'.asAdmitted.id = u.asAdmitted.id := congrArg Task.id hsame
        exact hgone (List.mem_map.mpr ⟨u', hu', hid'.trans hut⟩)
      · exact hnew t.id (congrArg some hut) hissued
    · have hid : t.id ∈ (run calls).ids := List.mem_map_of_mem ht
      exact ⟨List.mem_append_left _ (h.ids_issued hid), gone_of_removable h.unique ht hremovable _⟩
  total := by
    have hsize : ((run calls).after c).size + _ = _ :=
      size_after c fun id hc hid => hnew id hc (h.ids_issued hid)
    have htotal := h.total
    rw [run_snoc, reports_snoc, removed_append, issued_snoc, List.length_append]
    change ((run calls).after c).size + (_ + removed ((run calls).report? c).toList) = _
    omega

end Accounts

/-- **Every run accounts for its tasks**, if no identifier is issued twice. -/
theorem run_accounts {calls : List Call} (hfresh : (issued calls).Nodup) : Accounts calls := by
  induction calls using List.reverseRecOn with
  | nil =>
    exact ⟨List.nodup_nil, fun t ht => (by cases ht), fun s id now hadd => (by cases hadd),
      fun t ⟨before, _, _, _, _, hsplit, _⟩ => (by cases before <;> cases hsplit), rfl⟩
  | append_singleton calls c ih =>
    rw [issued_snoc, List.nodup_append] at hfresh
    refine (ih hfresh.1).step fun id hc hid => ?_
    exact hfresh.2.2 id hid id (by rw [hc]; exact List.mem_singleton.mpr rfl) rfl

/-- **No run loses, doubles or rewrites a task.** In a run of any calls in which no identifier is issued
twice, every task that was ever added is stored exactly once, as it was admitted but for its status, its
reason and the time of its update, or a sweep has deleted it while its application was not found and it
was older than that sweep's cutoff. There were as many additions as there are stored tasks and removals
that sweeps have reported. Exactly the identifiers that were never issued and those of deleted tasks are
not found; a write to one of them fails and leaves the store as it is, and any other write changes
nothing but status, reason and time of the update of that task. -/
theorem run_accounts_for_every_task {calls : List Call} (hfresh : (issued calls).Nodup) :
    let st := run calls
    (∀ s id now, .add s id now ∈ calls →
      (∃ t, st.get id = .ok t ∧ st.ids.count id = 1 ∧ t.asAdmitted = s.toTask id now) ∨
      (st.get id = .error (.notFound id) ∧ ∃ t, Deleted calls t ∧ t.asAdmitted = s.toTask id now)) ∧
    (issued calls).length = st.size + removed (reports {} calls) ∧
    (∀ id e, st.get id = .error e ↔ e = .notFound id ∧
      ((∀ s now, .add s id now ∉ calls) ∨ ∃ t, Deleted calls t ∧ t.id = id)) ∧
    ∀ id status reason now,
      (st.get id = .error (.notFound id) →
        st.setStatus id status reason now = .error (.notFound id) ∧
          st.after (.set id status reason now) = st) ∧
      ∀ t, st.get id = .ok t → ∃ st', st.setStatus id status reason now = .ok st' ∧
        st'.size = st.size ∧ ∀ other, st'.get other =
          if other = id then
            .ok { t with status := status, reason := reason, updated := nextUpdate t.updated now }
          else st.get other := by
  intro st
  have h := run_accounts hfresh
  refine ⟨fun s id now hadd => ?_, h.total.symm, fun id e => ?_, fun id status reason now =>
    ⟨fun hget => ?_, fun t hget => get_setStatus hget status reason now⟩⟩
  · rcases h.fate s id now hadd with ⟨t, ht, hadmitted⟩ | ⟨t, hdeleted, hadmitted⟩
    · have hid : t.id = id := congrArg Task.id hadmitted
      have hmem : id ∈ st.ids := List.mem_map.mpr ⟨t, ht, hid⟩
      exact .inl ⟨t, (get_eq_ok h.unique).mpr ⟨ht, hid⟩, List.count_eq_one_of_mem h.unique hmem,
        hadmitted⟩
    · have hid : t.id = id := congrArg Task.id hadmitted
      exact .inr ⟨get_eq_error.mpr ⟨rfl, hid ▸ (h.gone t hdeleted).2⟩, t, hdeleted, hadmitted⟩
  · rw [get_eq_error]
    refine and_congr_right fun _ => ⟨fun hid => ?_, ?_⟩
    · by_contra hnever
      obtain ⟨hadded, hkept⟩ := not_or.mp hnever
      push Not at hadded
      obtain ⟨s, now, hadd⟩ := hadded
      rcases h.fate s id now hadd with ⟨t, ht, hadmitted⟩ | ⟨t, hdeleted, hadmitted⟩
      · exact hid (List.mem_map.mpr ⟨t, ht, congrArg Task.id hadmitted⟩)
      · exact hkept ⟨t, hdeleted, congrArg Task.id hadmitted⟩
    · rintro (hnever | ⟨t, hdeleted, rfl⟩) hid
      · obtain ⟨s, now, hadd⟩ := mem_issued.mp (h.ids_issued hid)
        exact hnever s now hadd
      · exact (h.gone t hdeleted).2 hid
  · have hrefused := setStatus_of_not_mem (get_eq_error.mp hget).2 status reason now
    exact ⟨hrefused, after_set_of_error hrefused⟩

/-- Two tasks, of which one is marked as missing its application and swept away. -/
def sweptCalls : List Call :=
  [.add { app := "shop" } ⟨0⟩ (.ofNanos 0), .add { app := "cart" } ⟨1⟩ (.ofNanos 0),
    .set ⟨0⟩ .appNotFound "no such application" (.ofNanos 1), .set ⟨2⟩ .deployed "" (.ofNanos 1),
    .sweep 5 (.ofNanos 10) fun _ => .ofNanos 10]

theorem run_accounts_for_swept_task : (issued sweptCalls).Nodup ∧
    (run sweptCalls).get ⟨0⟩ = .error (.notFound ⟨0⟩) ∧
    (∃ t, Deleted sweptCalls t ∧ t.id = ⟨0⟩) ∧ (run sweptCalls).size + 1 = 2 := by
  have hfresh : (issued sweptCalls).Nodup := by decide +kernel
  obtain ⟨hfate, htotal, -, -⟩ := run_accounts_for_every_task hfresh
  have hmissing : (run sweptCalls).get ⟨0⟩ = .error (.notFound ⟨0⟩) := by decide +kernel
  refine ⟨hfresh, hmissing, ?_, ?_⟩
  · rcases hfate { app := "shop" } ⟨0⟩ (.ofNanos 0) List.mem_cons_self with
      ⟨t, hget, -⟩ | ⟨-, t, hdeleted, hadmitted⟩
    · rw [hmissing] at hget
      cases hget
    · exact ⟨t, hdeleted, congrArg Task.id hadmitted⟩
  · have hremoved : removed (reports {} sweptCalls) = 1 := by decide +kernel
    rw [hremoved] at htotal
    exact htotal.symm

end DeployWatch.TaskStore
