import DeployWatch.Proofs.Program.Ensures
import DeployWatch.Proofs.Store.Clock
import DeployWatch.Proofs.Store.Simulated

/-!
# What is announced and what is stored

At the end of a watch its outcome goes to the store, which moves the time of the last update, and to the
channels, with the task as it was handed to the watch.

* `Confirming`: surroundings that carry out the writes that they confirm;
* `Program.Only.ensures`: a program whose requests leave a view alone;
* `announcedIn`, `Notifier.send_deliveries`: the tasks that are announced, and that every channel gets;
* **`Watcher.announced_but_for_update`**: the announced task is the stored one, but for the time of its
  last update;
* `Watcher.announced_not_stored`: it is not the stored one.
-/

namespace DeployWatch

open Program (ask done Ensures)

/-- Surroundings with a task store that only requests for writes change. A write of a status that they
confirm has been made, at a time of their choice. -/
structure Confirming {σ : Type} (s : Surroundings σ) (store : σ → TaskStore) : Prop where
  quiet : ∀ r w, r.writesTasks = false → store (s.answer r w).2 = store w
  written : ∀ id status reason w, (s.answer (.setStatus id status reason) w).1 = .ok () →
    ∃ now, (store w).setStatus id status reason now =
      .ok (store (s.answer (.setStatus id status reason) w).2)

/-- A program whose requests leave a view alone. -/
theorem Program.Only.ensures {σ ν α : Type} {s : Surroundings σ} {view : σ → ν} {P : Request → Prop}
    (hview : ∀ r w, P r → view (s.answer r w).2 = view w) {p : Program α} (hp : p.Only P) (v : ν) :
    p.Ensures s view v fun _ h v' => v' = v ∧ ∀ e ∈ h, P e.request := by
  induction p with
  | done a => exact Ensures.done ⟨rfl, fun e he => by cases he⟩
  | ask r next ih =>
    refine Ensures.ask (fun w => hview r w hp.1) fun x => ?_
    refine (ih x (hp.2 x)).mono fun a h v' ⟨hv, hh⟩ => ⟨hv, fun e he => ?_⟩
    rcases List.mem_cons.mp he with rfl | he
    · exact hp.1
    · exact hh e he

/-! ## Announcements -/

/-- The task that is announced. -/
def Request.announced? : Request → Option Task
  | .announce t => some t
  | _ => none

/-- The tasks that a history announces. -/
def announcedIn (h : List Exchange) : List Task := h.filterMap (·.request.announced?)

theorem announcedIn_append (h h' : List Exchange) :
    announcedIn (h ++ h') = announcedIn h ++ announcedIn h' := List.filterMap_append

theorem announcedIn_of_quiet {h : List Exchange} (hh : ∀ e ∈ h, e.request.announced? = none) :
    announcedIn h = [] := List.filterMap_eq_nil_iff.mpr hh

/-- **Every channel gets the task that is announced**, once each. -/
theorem Notifier.send_deliveries (channels : List Channel) (t : Task) :
    ((Notifier.send channels t).deliveries.map (·.channel)).Perm (channels.map (·.name)) ∧
      ∀ d ∈ (Notifier.send channels t).deliveries, d.task = t := by
  have hperm := Notifier.deliveries_send_perm channels t
  refine ⟨(hperm.map _).trans ?_, fun d hd => ?_⟩
  · rw [List.map_map]
    rfl
  · obtain ⟨_, -, rfl⟩ := List.mem_map.mp (hperm.mem_iff.mp hd)
    rfl

/-! ## The end of a watch -/

namespace Watcher

variable {σ : Type} {s : Surroundings σ} {store : σ → TaskStore} (w : Watcher) (t : Task)

/-- What a watch writes and announces at its end, and what is found under the identifier of its task then:
if the write was confirmed, the task with status and reason of the outcome and another time of its
update. -/
structure Leaves (o : Outcome) (h : List Exchange) (found : Except StoreError Task) : Prop where
  writes : ∃ x, writesIn h = [⟨.setStatus t.id o.stored.1 o.stored.2, x⟩] ∧
    (x = .ok () → ∃ now, found = .ok (t.withStatus o.stored.1 o.stored.2 now))
  announces : announcedIn h = [{ t with status := o.stored.1, reason := o.stored.2 }]

/-- A confirmed write has changed the task. -/
theorem get_of_written (hconfirming : Confirming s store) {v : σ} {status : Status} {reason : String}
    (hv : (store v).get t.id = .ok t) (hok : (s.answer (.setStatus t.id status reason) v).1 = .ok ()) :
    ∃ now, (store (s.answer (.setStatus t.id status reason) v).2).get t.id =
      .ok (t.withStatus status reason now) := by
  obtain ⟨now, hset⟩ := hconfirming.written _ _ _ v hok
  obtain ⟨st', hset', -, hget⟩ := TaskStore.get_setStatus hv status reason now
  obtain rfl := Except.ok.inj (hset.symm.trans hset')
  exact ⟨now, (hget t.id).trans (if_pos rfl)⟩

/-- **The end of a watch.** -/
theorem report_ensures (hconfirming : Confirming s store) (o : Outcome) :
    (report t o).Ensures s (fun v => (store v).get t.id) (.ok t) fun _ h found => Leaves t o h found := by
  have hquiet : ∀ r v, r.writesTasks = false → (store (s.answer r v).2).get t.id = (store v).get t.id :=
    fun r v hr => by rw [hconfirming.quiet r v hr]
  refine Ensures.ask (fun v => hquiet _ v rfl) fun _ v hv => ?_
  refine Ensures.ask (fun v => hquiet _ v rfl) fun _ => Ensures.ask (fun v => hquiet _ v rfl) fun _ => ?_
  exact Ensures.done ⟨⟨_, rfl, get_of_written t hconfirming hv⟩, rfl⟩

/-- **The announced task is the stored one, but for the time of its last update.** A watch of a task as it
is stored, which nobody else writes meanwhile, whatever else they do, writes one status and announces two
tasks to all channels: the task as it was, and at the end the task with this status and its reason. If
the write was confirmed, then the record that is stored is that announced one but for the time of the last
update: it has a later one, while the announced task still has the one that it had before. -/
theorem announced_but_for_update (hconfirming : Confirming s store) :
    (w.watch t).Ensures s (fun v => (store v).get t.id) (.ok t) fun _ h found =>
      ∃ status reason x announced, writesIn h = [⟨.setStatus t.id status reason, x⟩] ∧
        announcedIn h = [t, announced] ∧
        (∀ channels, ((Notifier.send channels announced).deliveries.map (·.channel)).Perm
            (channels.map (·.name)) ∧
          ∀ d ∈ (Notifier.send channels announced).deliveries, d.task = announced) ∧
        (x = .ok () → ∃ stored, found = .ok stored ∧ stored.status = status ∧
          stored.reason = reason ∧ announced = { stored with updated := t.updated } ∧
          t.updated < stored.updated) := by
  have hquiet : ∀ r v, r.writesTasks = false → (store (s.answer r v).2).get t.id = (store v).get t.id :=
    fun r v hr => by rw [hconfirming.quiet r v hr]
  have hobserve : (w.observe t).Only fun r => r.writesTasks = false ∧ r.announced? = none :=
    w.observe_only t fun q hq => by
      cases q <;> first | exact ⟨rfl, rfl⟩ | exact absurd hq Bool.false_ne_true
  rw [watch_eq]
  refine Ensures.ask (fun v => hquiet _ v rfl) fun _ => Ensures.ask (fun v => hquiet _ v rfl) fun _ => ?_
  refine (hobserve.ensures (fun r v hr => hquiet r v hr.1) _).bind fun o h found ⟨hfound, hsilent⟩ => ?_
  rw [hfound]
  refine (report_ensures t hconfirming o).mono fun _ h' found' ⟨⟨x, hwrites, hstored⟩, hannounces⟩ => ?_
  refine ⟨o.stored.1, o.stored.2, x, { t with status := o.stored.1, reason := o.stored.2 }, ?_, ?_,
    fun channels => Notifier.send_deliveries channels _, fun hx => ?_⟩
  · rw [writesIn_cons_of_quiet rfl, writesIn_cons_of_quiet rfl, writesIn_append,
      writesIn_of_quiet fun e he => (hsilent e he).1, hwrites]
    rfl
  · show t :: announcedIn (h ++ h') = _
    rw [announcedIn_append, announcedIn_of_quiet fun e he => (hsilent e he).2, hannounces]
    rfl
  · obtain ⟨now, hget⟩ := hstored hx
    exact ⟨_, hget, rfl, rfl, rfl, lt_nextUpdate t.updated now⟩

end Watcher

/-! ## A watch in a simulated world -/

namespace Simulation

theorem World.confirming : Confirming World.surroundings World.store where
  quiet r w hr := store_of_quiet hr w
  written id status reason w hok := by
    change (w.setStatus id status reason).1 = _ at hok
    show ∃ now, _ = Except.ok (w.setStatus id status reason).2.store
    unfold setStatus at hok ⊢
    dsimp only at hok ⊢
    split at hok
    · cases hok
    · rename_i st hwriting
      exact ⟨_, StoreMode.of_writing hwriting⟩

/-- A task that was stored at the epoch. -/
def demoTask : Task :=
  Submission.toTask { app := "demo", images := [⟨"demo/nginx", "v1"⟩] } (taskId 0) (.ofNanos 0)

/-- An application that runs the expected image. -/
def readyApplication : Application where
  state := { sync := "Synced", health := { status := "Healthy" }, images := ["demo/nginx:v1"] }

/-- A world with this task and this application. -/
def readyWorld : World where
  now := 0
  store := ⟨[demoTask]⟩
  stored := 1
  script := [.ok readyApplication]

/-- The write of a status that was confirmed. -/
def Exchange.isConfirmed : Exchange → Bool
  | ⟨.setStatus .., .ok _⟩ => true
  | _ => false

end Simulation

open Simulation

theorem Watcher.announced_but_for_update_ready : readyWorld.store.get demoTask.id = .ok demoTask ∧
    ∃ stored, ((({} : Watcher).watch demoTask).run World.surroundings readyWorld).2.store.get
        demoTask.id = .ok stored ∧
      announcedIn ((({} : Watcher).watch demoTask).history World.surroundings readyWorld) =
        [demoTask, { stored with updated := demoTask.updated }] ∧ demoTask.updated < stored.updated := by
  have hbefore : readyWorld.store.get demoTask.id = .ok demoTask := by decide +kernel
  have hends := ({} : Watcher).announced_but_for_update demoTask World.confirming
  rw [← hbefore] at hends
  obtain ⟨status, reason, x, announced, hwrites, hannounces, -, hstored⟩ := hends.run
  have hconfirmed : (writesIn ((({} : Watcher).watch demoTask).history World.surroundings
      readyWorld)).all Exchange.isConfirmed = true := by decide +kernel
  have hok : x = .ok () := by
    rw [hwrites] at hconfirmed
    cases x with
    | ok _ => rfl
    | error e => cases hconfirmed
  obtain ⟨stored, hfound, -, -, rfl, hlater⟩ := hstored hok
  exact ⟨hbefore, stored, hfound, hannounces, hlater⟩

/-- **What is announced is not what is stored.** The record that is stored after the watch is not the task
that the watch has announced at its end. -/
theorem Watcher.announced_not_stored : ∃ announced stored,
    readyWorld.store.get demoTask.id = .ok demoTask ∧
    announcedIn ((({} : Watcher).watch demoTask).history World.surroundings readyWorld) =
      [demoTask, announced] ∧
    ((({} : Watcher).watch demoTask).run World.surroundings readyWorld).2.store.get demoTask.id =
      .ok stored ∧
    announced.status = .deployed ∧ stored.status = .deployed ∧ announced ≠ stored := by
  refine ⟨{ demoTask with status := .deployed }, demoTask.withStatus .deployed "" (.ofNanos 0), ?_⟩
  decide +kernel

end DeployWatch
