import DeployWatch.Proofs.Store.Runs
import DeployWatch.Proofs.Time.Order

/-!
# The time of the last update

Every stored task carries the time of its last update. The clock behind it may stand still, jump and go
back; a sweep reads it at its start, for the cutoff, and again for each task that it aborts.

* `lt_nextUpdate`, `nextUpdate_representable`: an update is later than the one before, and in range;
* `Call.reading?`, `Written`: which tasks a call writes, and whether a task was ever written;
* `Afterwards`, `stored_after`, `kept_after`: what one call does to the times of the stored tasks;
* `Clocks`, `Clocks.step`, `run_clocks`: the times of all tasks of a run;
* **`updated_is_strict_clock`**: the time of the last update grows with every write and with nothing else.
-/

namespace DeployWatch

open Time (Instant)

/-! ## One update -/

/-- A microsecond more stays within the second, or leads to the next one. -/
theorem Time.Instant.add_microsecond (t : Instant) :
    (t.add 1000 = ⟨t.secs, t.nanos + 1000⟩ ∧ (t.nanos < 2000000000 → t.nanos + 1000 < 2000000000)) ∨
      ∃ secs nanos, t.add 1000 = ⟨secs, nanos⟩ ∧ t.secs < secs ∧ 999999000 ≤ t.nanos ∧
        (t.nanos < 2000000000 → secs = t.secs + 1 ∧ nanos < 1000) := by
  cases hleap : t.inLeapSecond with
  | false =>
    have hnanos := Instant.inLeapSecond_eq_false.mp hleap
    rw [Instant.add_of_regular hleap, Instant.ofNanos, Instant.toNanos]
    by_cases hend : 1000000000 ≤ t.nanos + 1000
    · exact .inr ⟨_, _, rfl, by omega, by omega, fun _ => by omega⟩
    · refine .inl ⟨?_, fun _ => by omega⟩
      rw [Instant.mk.injEq]
      omega
  | true =>
    have hwhole : (1000 : Int).tdiv 1000000000 = 0 := rfl
    have hpart : (1000 : Int).tmod 1000000000 = 1000 := rfl
    have hnanos : 1000000000 ≤ t.nanos := by simpa [Instant.inLeapSecond] using hleap
    rw [Instant.add, hleap, if_pos rfl, hwhole, hpart]
    by_cases hend : (2000000000 : Int) ≤ t.nanos + 1000
    · rw [if_pos (.inr ⟨by decide, hend⟩)]
      exact .inr ⟨_, _, rfl, by omega, by omega, fun _ => by omega⟩
    · rw [if_neg (by omega), if_neg (by decide)]
      refine .inl ⟨?_, fun _ => by omega⟩
      rw [Instant.mk.injEq]
      omega

/-- **An update is later than the one before**, whatever the clock says. -/
theorem lt_nextUpdate (previous now : Instant) : previous < nextUpdate previous now := by
  unfold nextUpdate
  split
  · assumption
  · rcases previous.add_microsecond with ⟨hadd, -⟩ | ⟨secs, nanos, hadd, hlt, -⟩
    · rw [hadd]
      exact .inr ⟨rfl, Nat.lt_add_of_pos_right (by decide)⟩
    · rw [hadd]
      exact .inl hlt

/-- An update stays within the calendar if the one before was not made in its last microsecond. -/
theorem nextUpdate_representable {previous now : Instant} (hprevious : previous.Representable)
    (hlast : previous ≤ Instant.greatest.add (-1000)) (hnow : now.Representable) :
    (nextUpdate previous now).Representable := by
  have hend : Instant.greatest.add (-1000) = ⟨8210266876799, 999998999⟩ := by decide +kernel
  have hgreatest : Instant.greatest.secs = 8210266876799 := rfl
  rw [hend, Instant.le_def] at hlast
  dsimp only at hlast
  obtain ⟨hleast, hsecs, hnanos⟩ := hprevious
  unfold nextUpdate
  split
  · exact hnow
  · rcases previous.add_microsecond with ⟨hadd, hroom⟩ | ⟨secs, nanos, hadd, -, hlate, hnext⟩
    · rw [hadd]
      exact ⟨hleast, hsecs, hroom hnanos⟩
    · obtain ⟨rfl, hsmall⟩ := hnext hnanos
      rw [hadd]
      exact ⟨by dsimp only; omega, by dsimp only; omega, by dsimp only; omega⟩

/-! ## Calls and the clock -/

namespace TaskStore

/-- The time that a call reads for a stored task if it writes it. A write of a status writes the task of
its identifier, and a sweep those that it aborts. -/
def Call.reading? (c : Call) (t : Task) : Option Instant :=
  match c with
  | .add .. => none
  | .set id _ _ now => if t.id = id then some now else none
  | .sweep staleness start readings =>
    if isAbortable (staleCutoff start staleness) t then some (readings t.id) else none

end TaskStore

open TaskStore

/-- A stored task was written by one of the calls. -/
def Written (calls : List Call) (id : Uuid) : Prop :=
  ∃ before c rest, calls = before ++ c :: rest ∧
    ∃ t ∈ (run before).tasks, t.id = id ∧ (c.reading? t).isSome

theorem written_snoc {calls : List Call} {c : Call} {id : Uuid} :
    Written (calls ++ [c]) id ↔ Written calls id ∨
      ∃ t ∈ (run calls).tasks, t.id = id ∧ (c.reading? t).isSome := by
  constructor
  · rintro ⟨before, c', rest, hsplit, hwrite⟩
    rcases List.eq_nil_or_concat rest with rfl | ⟨rest, last, rfl⟩
    · obtain ⟨rfl, hlast⟩ := List.append_inj' hsplit rfl
      rw [← List.singleton_inj.mp hlast] at hwrite
      exact .inr hwrite
    · rw [List.concat_eq_append, ← List.cons_append, ← List.append_assoc] at hsplit
      exact .inl ⟨before, c', rest, (List.append_inj' hsplit rfl).1, hwrite⟩
  · rintro (⟨before, c', rest, rfl, hwrite⟩ | hwrite)
    · exact ⟨before, c', rest ++ [c], by simp, hwrite⟩
    · exact ⟨calls, c, [], rfl, hwrite⟩

/-! ## One call -/

/-- A task as it stands after a call that does not remove it: its time of the last update is as before,
or the call has written it. -/
structure Afterwards (c : Call) (t t' : Task) : Prop where
  id_eq : t'.id = t.id
  created_eq : t'.created = t.created
  updated_of_none : c.reading? t = none → t'.updated = t.updated
  updated_of_some : ∀ now, c.reading? t = some now → t'.updated = nextUpdate t.updated now

section OneCall

variable {st : TaskStore} {c : Call} {t : Task}

theorem Afterwards.of_none (h : c.reading? t = none) : Afterwards c t t :=
  ⟨rfl, rfl, fun _ => rfl, fun now hnow => by rw [h] at hnow; cases hnow⟩

theorem Afterwards.of_some {now : Instant} (h : c.reading? t = some now) (status : Status)
    (reason : String) : Afterwards c t (t.withStatus status reason now) := by
  refine ⟨rfl, rfl, fun hnone => ?_, fun now' hnow => ?_⟩
  · rw [h] at hnone
    cases hnone
  · rw [h] at hnow
    cases hnow
    rfl

theorem afterwards_set (id : Uuid) (status : Status) (reason : String) (now : Instant) (t : Task) :
    Afterwards (.set id status reason now) t
      (if t.id = id then t.withStatus status reason now else t) := by
  by_cases hid : t.id = id
  · have hread : (Call.set id status reason now).reading? t = some now := if_pos hid
    rw [if_pos hid]
    exact .of_some hread status reason
  · rw [if_neg hid]
    exact .of_none (if_neg hid)

theorem afterwards_sweep (staleness : Nat) (start : Instant) (readings : Uuid → Instant) (t : Task) :
    Afterwards (.sweep staleness start readings) t (if isAbortable (staleCutoff start staleness) t
      then t.withStatus .aborted abortedReason (readings t.id) else t) := by
  by_cases habort : isAbortable (staleCutoff start staleness) t = true
  · have hread : (Call.sweep staleness start readings).reading? t = some (readings t.id) := if_pos habort
    rw [if_pos habort]
    exact .of_some hread _ _
  · rw [if_neg habort]
    exact .of_none (if_neg habort)

/-- A refused write changes as little as one to a task that is not there. -/
theorem TaskStore.tasks_set (st : TaskStore) (id : Uuid) (status : Status) (reason : String)
    (now : Instant) : (st.after (.set id status reason now)).tasks =
      st.tasks.map fun t => if t.id = id then t.withStatus status reason now else t := by
  by_cases hid : id ∈ st.ids
  · have hany : (st.tasks.any fun t => t.id = id) = true := by simpa [ids] using hid
    rw [after, setStatus, if_pos hany]
    rfl
  · rw [after_set_of_error (setStatus_of_not_mem hid status reason now)]
    refine (List.map_id _).symm.trans (List.map_congr_left fun t ht => ?_)
    exact (if_neg fun h => hid (List.mem_map.mpr ⟨t, ht, h⟩)).symm

/-- **What is stored after a call** has just been admitted, or was stored before. -/
theorem stored_after {t' : Task} (ht' : t' ∈ (st.after c).tasks) :
    (∃ s id now, c = .add s id now ∧ t' = s.toTask id now) ∨ ∃ t ∈ st.tasks, Afterwards c t t' := by
  cases c with
  | add s id now =>
    rcases List.mem_append.mp ht' with ht' | ht'
    · exact .inr ⟨t', List.mem_of_mem_filter ht', .of_none rfl⟩
    · exact .inl ⟨s, id, now, rfl, List.mem_singleton.mp ht'⟩
  | set id status reason now =>
    rw [tasks_set] at ht'
    obtain ⟨t, ht, rfl⟩ := List.mem_map.mp ht'
    exact .inr ⟨t, ht, afterwards_set id status reason now t⟩
  | sweep staleness start readings =>
    obtain ⟨t, ht, rfl⟩ := List.mem_map.mp ht'
    exact .inr ⟨t, List.mem_of_mem_filter ht, afterwards_sweep staleness start readings t⟩

/-- A call does not remove what it writes. -/
theorem kept_after (ht : t ∈ st.tasks) {now : Instant} (hnow : c.reading? t = some now) :
    ∃ t' ∈ (st.after c).tasks, Afterwards c t t' := by
  cases c with
  | add s id now' => cases hnow
  | set id status reason now' =>
    rw [tasks_set]
    exact ⟨_, List.mem_map_of_mem ht, afterwards_set id status reason now' t⟩
  | sweep staleness start readings =>
    have habort : isAbortable (staleCutoff start staleness) t = true := by
      by_contra habort
      cases (if_neg habort).symm.trans hnow
    have hkept : (!isRemovable (staleCutoff start staleness) t) = true := by
      rw [isAbortable, Bool.and_eq_true, beq_iff_eq] at habort
      simp [isRemovable, habort.1]
    exact ⟨_, List.mem_map_of_mem (List.mem_filter.mpr ⟨ht, hkept⟩),
      afterwards_sweep staleness start readings t⟩

end OneCall

/-! ## Runs -/

/-- The times of all tasks of a run. -/
structure Clocks (calls : List Call) : Prop extends Accounts calls where
  written_issued : ∀ id, Written calls id → id ∈ issued calls
  created_le : ∀ t ∈ (run calls).tasks, t.created ≤ t.updated
  eq_iff : ∀ t ∈ (run calls).tasks, t.created = t.updated ↔ ¬ Written calls t.id

namespace Clocks

variable {calls : List Call} {c : Call}

theorem stored_issued (h : Clocks calls) {t : Task} (ht : t ∈ (run calls).tasks) :
    t.id ∈ issued calls := h.ids_issued (List.mem_map_of_mem ht)

/-- Whether a stored task is written by the next call. -/
theorem written_next (h : Clocks calls) {t : Task} (ht : t ∈ (run calls).tasks) :
    Written (calls ++ [c]) t.id ↔ Written calls t.id ∨ (c.reading? t).isSome := by
  rw [written_snoc]
  refine or_congr_right ⟨?_, fun hwrite => ⟨t, ht, rfl, hwrite⟩⟩
  rintro ⟨u, hu, hid, hwrite⟩
  rwa [eq_of_id h.unique hu ht hid] at hwrite

/-- **One more call**, if the identifier that it issues is new. -/
theorem step (h : Clocks calls) (hnew : ∀ id, c.issued? = some id → id ∉ issued calls) :
    Clocks (calls ++ [c]) where
  toAccounts := h.toAccounts.step hnew
  written_issued id hwritten := by
    rw [issued_snoc]
    refine List.mem_append_left _ ?_
    rcases written_snoc.mp hwritten with hwritten | ⟨t, ht, rfl, -⟩
    · exact h.written_issued id hwritten
    · exact h.stored_issued ht
  created_le t' ht' := by
    rw [run_snoc] at ht'
    rcases stored_after ht' with ⟨s, id, now, rfl, rfl⟩ | ⟨t, ht, hafter⟩
    · exact le_refl now
    · rw [hafter.created_eq]
      cases hnow : c.reading? t with
      | none =>
        rw [hafter.updated_of_none hnow]
        exact h.created_le t ht
      | some now =>
        rw [hafter.updated_of_some now hnow]
        exact le_of_lt (lt_of_le_of_lt (h.created_le t ht) (lt_nextUpdate _ _))
  eq_iff t' ht' := by
    rw [run_snoc] at ht'
    rcases stored_after ht' with ⟨s, id, now, rfl, rfl⟩ | ⟨t, ht, hafter⟩
    · have hid : id ∉ issued calls := hnew id rfl
      refine iff_of_true rfl fun hwritten => hid ?_
      rcases written_snoc.mp hwritten with hwritten | ⟨t, ht, htid, -⟩
      · exact h.written_issued id hwritten
      · exact (show t.id = id from htid) ▸ h.stored_issued ht
    · rw [hafter.created_eq, hafter.id_eq, h.written_next ht]
      cases hnow : c.reading? t with
      | none =>
        rw [hafter.updated_of_none hnow, h.eq_iff t ht]
        simp
      | some now =>
        have hlt : t.created < nextUpdate t.updated now :=
          lt_of_le_of_lt (h.created_le t ht) (lt_nextUpdate _ _)
        rw [hafter.updated_of_some now hnow]
        exact iff_of_false (ne_of_lt hlt) (not_not.mpr (.inr rfl))

end Clocks

/-- **The times of every run**, if no identifier is issued twice. -/
theorem run_clocks {calls : List Call} (hfresh : (issued calls).Nodup) : Clocks calls := by
  induction calls using List.reverseRecOn with
  | nil =>
    have hnone : ∀ id, ¬ Written [] id := fun id ⟨before, _, _, hsplit, _⟩ => by
      cases before <;> cases hsplit
    exact ⟨run_accounts hfresh, fun id h => absurd h (hnone id), fun t ht => (by cases ht),
      fun t ht => (by cases ht)⟩
  | append_singleton calls c ih =>
    rw [issued_snoc, List.nodup_append] at hfresh
    refine (ih hfresh.1).step fun id hc hid => ?_
    exact hfresh.2.2 id hid id (by rw [hc]; exact List.mem_singleton.mpr rfl) rfl

/-- **The time of the last update is a strict clock of its task.** In a run of any additions, writes and
sweeps in which no identifier is issued twice, whatever each of them reads from the clock: a call that
writes a stored task gives it a later time, which is within the calendar if the one before was not in its
last microsecond; a call that does not write it leaves that time as it is, for as long as the task is
stored. No task was updated before it was created, and exactly those that were never written have both
times the same. -/
theorem updated_is_strict_clock {calls : List Call} (hfresh : (issued calls).Nodup) :
    (∀ before c rest, calls = before ++ c :: rest →
      ∀ id t, (run before).get id = .ok t →
        (∀ now, c.reading? t = some now → ∃ t', (run (before ++ [c])).get id = .ok t' ∧
          t'.updated = nextUpdate t.updated now ∧ t.updated < t'.updated ∧
          (t.updated.Representable → t.updated ≤ Instant.greatest.add (-1000) →
            now.Representable → t'.updated.Representable)) ∧
        (c.reading? t = none →
          ∀ t', (run (before ++ [c])).get id = .ok t' → t'.updated = t.updated)) ∧
    ∀ id t, (run calls).get id = .ok t →
      t.created ≤ t.updated ∧ (t.created = t.updated ↔ ¬ Written calls id) := by
  refine ⟨fun before c rest hsplit id t hget => ?_, fun id t hget => ?_⟩
  · rw [hsplit, List.append_cons] at hfresh
    have hnext : (issued (before ++ [c])).Nodup :=
      ((List.sublist_append_left _ rest).filterMap _).nodup hfresh
    have hunique' := (run_clocks hnext).unique
    rw [issued_snoc, List.nodup_append] at hnext
    have h := run_clocks hnext.1
    obtain ⟨ht, rfl⟩ := (get_eq_ok h.unique).mp hget
    constructor
    · intro now hnow
      obtain ⟨t', ht', hafter⟩ := kept_after ht hnow
      rw [← run_snoc] at ht'
      refine ⟨t', (get_eq_ok hunique').mpr ⟨ht', hafter.id_eq⟩, ?_⟩
      rw [hafter.updated_of_some now hnow]
      exact ⟨rfl, lt_nextUpdate _ _, nextUpdate_representable⟩
    · intro hnone t' hget'
      obtain ⟨ht', hid⟩ := (get_eq_ok hunique').mp hget'
      rw [run_snoc] at ht'
      rcases stored_after ht' with ⟨s, id, now, rfl, rfl⟩ | ⟨u, hu, hafter⟩
      · -- The identifier of a stored task is not issued again.
        exact absurd hid.symm (hnext.2.2 t.id (h.stored_issued ht) id (List.mem_singleton.mpr rfl))
      · obtain rfl := eq_of_id h.unique hu ht (hafter.id_eq.symm.trans hid)
        exact hafter.updated_of_none hnone
  · have h := run_clocks hfresh
    obtain ⟨ht, rfl⟩ := (get_eq_ok h.unique).mp hget
    exact ⟨h.created_le t ht, h.eq_iff t ht⟩

/-- Two tasks of which one is admitted in a leap second and written when the clock has gone back, a third
one, and a sweep that aborts the first when the clock has gone back further. -/
def unsteadyCalls : List Call :=
  [.add { app := "shop" } ⟨0⟩ ⟨100, 0⟩, .add { app := "cart" } ⟨1⟩ ⟨119, 1999999500⟩,
    .set ⟨1⟩ .deployed "" ⟨100, 0⟩, .add { app := "blog" } ⟨2⟩ ⟨130, 0⟩,
    .sweep 10000000000 ⟨125, 0⟩ fun _ => ⟨50, 0⟩]

theorem updated_is_strict_clock_unsteady : (issued unsteadyCalls).Nodup ∧
    (∃ t t', (run (unsteadyCalls.take 2)).get ⟨1⟩ = .ok t ∧
      (run (unsteadyCalls.take 3)).get ⟨1⟩ = .ok t' ∧ t.updated < t'.updated ∧
      t'.updated = ⟨120, 500⟩) ∧
    (∃ t, (run unsteadyCalls).get ⟨0⟩ = .ok t ∧ t.updated = ⟨100, 1000⟩ ∧
      Written unsteadyCalls ⟨0⟩) ∧
    ∃ t, (run unsteadyCalls).get ⟨2⟩ = .ok t ∧ ¬ Written unsteadyCalls ⟨2⟩ := by
  have hfresh : (issued unsteadyCalls).Nodup := by decide +kernel
  obtain ⟨hcalls, hstored⟩ := updated_is_strict_clock hfresh
  have hcart : (run (unsteadyCalls.take 2)).get ⟨1⟩ =
      .ok (Submission.toTask { app := "cart" } ⟨1⟩ ⟨119, 1999999500⟩) := by decide +kernel
  have hshop : (run unsteadyCalls).get ⟨0⟩ =
      .ok ((Submission.toTask { app := "shop" } ⟨0⟩ ⟨100, 0⟩).withStatus .aborted abortedReason
        ⟨50, 0⟩) := by decide +kernel
  have hblog : (run unsteadyCalls).get ⟨2⟩ =
      .ok (Submission.toTask { app := "blog" } ⟨2⟩ ⟨130, 0⟩) := by decide +kernel
  obtain ⟨hwrites, -⟩ := hcalls (unsteadyCalls.take 2) _ _ rfl ⟨1⟩ _ hcart
  obtain ⟨t', hget, hupdated, hlt, -⟩ := hwrites ⟨100, 0⟩ (by decide +kernel)
  refine ⟨hfresh, ⟨_, t', hcart, hget, hlt, ?_⟩, ⟨_, hshop, by decide +kernel, ?_⟩, _, hblog, ?_⟩
  · rw [hupdated]
    decide +kernel
  · by_contra hnever
    exact absurd ((hstored _ _ hshop).2.mpr hnever) (by decide +kernel)
  · exact (hstored _ _ hblog).2.mp rfl

end DeployWatch
