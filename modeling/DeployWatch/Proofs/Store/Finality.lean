import DeployWatch.Proofs.Store.Reasons

/-!
# When a status is final

A task is aborted by a sweep once it is older than the staleness, whether or not its rollout is still
observed. Such an observation writes its outcome all the same when it ends.

* `Outcome.stored_isEnd`: no outcome leaves a task in progress or aborted;
* `Overtaken`: an aborted task has got the outcome of its observation;
* `Replays.kept_or_overtaken`: what becomes of a terminal status as exchanges go on;
* **`terminal_status_final_unless_aborted`**: every other terminal status is final, and an aborted task
  changes once at most;
* `terminal_status_not_final`: an aborted task that comes to be deployed.
-/

namespace DeployWatch

theorem Outcome.stored_isEnd (o : Outcome) :
    o.stored.1 ≠ .inProgress ∧ o.stored.1 ≠ .aborted := by
  cases o with
  | deployed => exact ⟨nofun, nofun⟩
  | failed f => exact ⟨f.status_isFailure.1, f.status_isFailure.2.2⟩

theorem Status.ne_inProgress_of_isTerminal {s : Status} (h : s.isTerminal = true) :
    s ≠ .inProgress := by
  rintro rfl
  cases h

/-- A task was aborted and now has the status and the reason that a history has written. -/
def Overtaken (H : List (Nat × Exchange)) (t t' : Task) : Prop :=
  t.status = .aborted ∧ ∃ n, (n, ⟨.setStatus t.id t'.status t'.reason, .ok ()⟩) ∈ H

theorem Overtaken.mono {H H' : List (Nat × Exchange)} {t t' : Task} (h : Overtaken H t t') :
    Overtaken (H ++ H') t t' := by
  obtain ⟨haborted, n, hwrite⟩ := h
  exact ⟨haborted, n, List.mem_append_left _ hwrite⟩

/-- Identifiers of later admissions are new. -/
theorem IssuedOnce.ne_of_append {H H' : List (Nat × Exchange)} (h : IssuedOnce (H ++ H')) {n n' : Nat}
    {s s' : Submission} {t t' : Task} (ht : (n, ⟨.addTask s, .ok t⟩) ∈ H)
    (ht' : (n', ⟨.addTask s', .ok t'⟩) ∈ H') : t.id ≠ t'.id := by
  unfold IssuedOnce admissions at h
  rw [List.filterMap_append, List.map_append, List.nodup_append] at h
  exact h.2.2 _ (List.mem_map.mpr ⟨_, mem_admissions ht, rfl⟩) _
    (List.mem_map.mpr ⟨_, mem_admissions ht', rfl⟩)

section Interleavings

variable {σ : Type} {s : Surroundings σ} {store : σ → TaskStore} {jobs : List Job} {w : σ}
  {c c' : Crew σ Unit} {H H' : List (Nat × Exchange)} {t t' : Task}

/-- **As exchanges go on**, a terminal status is kept, or it was that of an aborted task and is overtaken
by the outcome of its observation. -/
theorem Replays.kept_or_overtaken {st st' : TaskStore} {H₁ H₂ : List (Nat × Exchange)}
    (h : Crew.Unfolds s (.ofJobs jobs w) (H ++ (H₁ ++ H₂)) c') (hids : IssuedOnce (H ++ (H₁ ++ H₂)))
    (hbefore : Replays {} H st) (ht : t ∈ st.tasks) (hterminal : t.status.isTerminal = true)
    (hafter : Replays st H₁ st') (ht' : t' ∈ st'.tasks) (hid : t'.id = t.id) :
    t' = t ∨ Overtaken H₁ t t' := by
  have hprogress := Status.ne_inProgress_of_isTerminal hterminal
  induction hafter generalizing t' H₂ with
  | start => exact .inl (List.inj_on_of_nodup_map hbefore.nodup_ids ht' ht hid)
  | @snoc H₁ st₁ st' n e hafter heffect ih =>
    rw [List.append_assoc, List.singleton_append] at h hids
    cases heffect.becomes ht' with
    | stays ht' => exact (ih h hids ht' hid).imp_right Overtaken.mono
    | admitted he =>
      obtain ⟨n', sub, hadmitted⟩ := hbefore.admitted ht
      subst he
      have hnew := hids.ne_of_append hadmitted (List.mem_append_right H₁ List.mem_cons_self)
      exact absurd hid.symm hnew
    | @written u status reason now hu he =>
      rw [show u.id = t.id from hid] at he
      subst he
      -- Nothing was written to this task before.
      have hfirst : ∀ {n' status' reason'},
          (n', ⟨.setStatus t.id status' reason', .ok ()⟩) ∉ H ++ H₁ := by
        intro n' status' reason' hwrite
        rw [← List.append_assoc] at h hids
        exact h.status_written_once hids hwrite List.mem_cons_self
      rcases ih h hids hu hid with rfl | ⟨-, n', hwrite⟩
      · cases hbefore.standing ht with
        | admitted hstatus _ => exact absurd hstatus hprogress
        | written n' hwrite => exact absurd (List.mem_append_left _ hwrite) hfirst
        | aborted hstatus _ =>
          exact .inr ⟨hstatus, n, List.mem_append_right _ (List.mem_singleton.mpr rfl)⟩
      · exact absurd (List.mem_append_right _ hwrite) hfirst
    | aborted now hu hinProgress =>
      rcases ih h hids hu hid with rfl | ⟨-, n', hwrite⟩
      · exact absurd hinProgress hprogress
      · -- What was written is the outcome of an observation.
        obtain ⟨_, _, o, -, -, ho, -⟩ :=
          h.status_written (List.mem_append_right _ (List.mem_append_left _ hwrite))
        rw [hinProgress] at ho
        exact absurd (congrArg Prod.fst ho) o.stored_isEnd.1

/-- **A terminal status is final, unless it is that of an aborted task.** An aborted task can change
once: if its observation was still under way, it gets status and reason of the outcome, which is neither
in progress nor aborted. -/
theorem terminal_status_final_unless_aborted (hkeeps : Keeps s store) (hempty : store w = {})
    (h : Crew.Unfolds s (.ofJobs jobs w) H c) (h' : Crew.Unfolds s c H' c')
    (hids : IssuedOnce (H ++ H')) (ht : t ∈ (store c.state).tasks)
    (hterminal : t.status.isTerminal = true) (ht' : t' ∈ (store c'.state).tasks)
    (hid : t'.id = t.id) :
    t' = t ∨ t.status = .aborted ∧ ∃ n sub o, (n, ⟨.addTask sub, .ok t.asAdmitted⟩) ∈ H ∧
      (n, ⟨.setStatus t.id t'.status t'.reason, .ok ()⟩) ∈ H' ∧
      Outcome.stored o = (t'.status, t'.reason) ∧ t'.status ≠ .inProgress ∧ t'.status ≠ .aborted := by
  have hbefore := h.replays_of_empty hkeeps hempty
  have hafter := h'.replays hkeeps (h.tidy (Crew.tidy_ofPrograms _ w))
  have hrun := h.trans s h'
  have hnone : H' ++ [] = H' := List.append_nil H'
  rcases Replays.kept_or_overtaken (hnone.symm ▸ hrun) (hnone.symm ▸ hids) hbefore ht hterminal hafter
    ht' hid with hkept | ⟨haborted, n, hwrite⟩
  · exact .inl hkept
  · obtain ⟨n', sub', hadmitted⟩ := hbefore.admitted ht
    obtain ⟨_, _, o, hadd, huid, ho, -⟩ := hrun.status_written (List.mem_append_right H hwrite)
    obtain ⟨rfl, -⟩ := hids.eq (List.mem_append_left H' hadmitted) hadd huid.symm
    obtain ⟨hend, hend'⟩ := o.stored_isEnd
    rw [ho] at hend hend'
    exact .inr ⟨haborted, n', sub', o, hadmitted, hwrite, ho, hend, hend'⟩

end Interleavings

/-! ## An observation that outlives the staleness -/

namespace Simulation

/-- A rollout that converges after half a minute, and sweeps that abort tasks older than ten seconds. -/
def slowRollout : Crew World Unit :=
  let ready : Application :=
    { state := { sync := "Synced", health := { status := "Healthy" }, images := ["demo/nginx:v1"] } }
  .ofJobs
    [.submission {} { app := "demo", images := [⟨"demo/nginx", "v1"⟩] },
      .sweeps ⟨20000, 10000000000⟩ 2]
    { now := 0, script := [.ok {}, .ok {}, .ok {}, .ok ready] }

end Simulation

open Simulation in
/-- **A sweep aborts a task whose rollout is observed**, and the task comes to be deployed later. -/
theorem terminal_status_not_final : ∃ H c H' c' t t',
    Crew.Unfolds World.clocked slowRollout H c ∧ Crew.Unfolds World.clocked c H' c' ∧
    IssuedOnce (H ++ H') ∧ t ∈ c.state.store.tasks ∧ t' ∈ c'.state.store.tasks ∧ t'.id = t.id ∧
    t.status.isTerminal = true ∧ t'.status ≠ t.status ∧ t'.reason ≠ t.reason := by
  obtain ⟨swept, hswept⟩ : ∃ c, c = slowRollout.run World.clocked 18 := ⟨_, rfl⟩
  have hids : IssuedOnce (slowRollout.exchanges World.clocked 18 ++
      swept.exchanges World.clocked 7) := by
    subst hswept
    unfold IssuedOnce
    decide +kernel
  have hstored : ∃ t ∈ swept.state.store.tasks,
      ∃ t' ∈ (swept.run World.clocked 7).state.store.tasks, t'.id = t.id ∧
        t.status.isTerminal = true ∧ t'.status ≠ t.status ∧ t'.reason ≠ t.reason := by
    subst hswept
    decide +kernel
  obtain ⟨t, ht, t', ht', hchange⟩ := hstored
  have hrun := Crew.run_unfolds World.clocked slowRollout 18
  rw [← hswept] at hrun
  exact ⟨_, _, _, _, t, t', hrun, Crew.run_unfolds World.clocked swept 7, hids, ht, ht', hchange⟩

open Simulation in
/-- **From then on the task stays deployed.** -/
theorem terminal_status_final_after_overtaking : ∃ H c H' c' t,
    Crew.Unfolds World.clocked slowRollout H c ∧ Crew.Unfolds World.clocked c H' c' ∧
    t ∈ c.state.store.tasks ∧ t.status = .deployed ∧ c'.isOver = true ∧
    ∀ t' ∈ c'.state.store.tasks, t'.id = t.id → t' = t := by
  obtain ⟨ended, hended⟩ : ∃ c, c = slowRollout.run World.clocked 22 := ⟨_, rfl⟩
  have hids : IssuedOnce (slowRollout.exchanges World.clocked 22 ++
      ended.exchanges World.clocked 3) := by
    subst hended
    unfold IssuedOnce
    decide +kernel
  have hstored : ∃ t ∈ ended.state.store.tasks, t.status = .deployed := by
    subst hended
    decide +kernel
  have hover : (ended.run World.clocked 3).isOver = true := by
    subst hended
    decide +kernel
  obtain ⟨t, ht, hstatus⟩ := hstored
  have hrun := Crew.run_unfolds World.clocked slowRollout 22
  rw [← hended] at hrun
  have hrest := Crew.run_unfolds World.clocked ended 3
  refine ⟨_, _, _, _, t, hrun, hrest, ht, hstatus, hover, fun t' ht' hid => ?_⟩
  have hterminal : t.status.isTerminal = true := by rw [hstatus]; rfl
  rcases terminal_status_final_unless_aborted World.clocked_keeps_store rfl hrun hrest hids ht
    hterminal ht' hid with hkept | ⟨haborted, -⟩
  · exact hkept
  · rw [hstatus] at haborted
    cases haborted

end DeployWatch
