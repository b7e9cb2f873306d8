import DeployWatch.Proofs.Program.Alike
import DeployWatch.Proofs.Rollout.Ends
import DeployWatch.Proofs.Rollout.Writes
import DeployWatch.Proofs.Store.Finality

/-!
# The life of a watch

* `Request.isHeard`: what a watch depends on, the control plane and the repositories;
* `Updater.update_alike`, `Watcher.observe_alike`, `Watcher.watch_alike`: it depends on nothing else;
* **`Watcher.watch_lifecycle`**: what a watch announces, stores and measures, and that neither channels nor
  store have any influence on it;
* `Watcher.watch_lifecycle_unavailable`: a rollout whose image does not come, with a store and a channel
  that fail.
-/

namespace DeployWatch

open Program (ask done Alike)

/-- Whether a watch depends on the answer. -/
def Request.isHeard : Request → Bool
  | .application _ => true
  | q => q.isOfGit

def Request.announces : Request → Bool
  | .announce _ => true
  | _ => false

def Request.measures : Request → Bool
  | .record _ => true
  | _ => false

theorem Request.isHeard_of_isOfGit {q : Request} (hq : q.isOfGit) : q.isHeard = true := by
  cases q <;> first | exact hq | rfl

/-- An observation announces, stores and measures nothing. -/
theorem Request.silent_of_isOfObservation {q : Request} (hq : q.isOfObservation) :
    q.announces = false ∧ q.writesTasks = false ∧ q.measures = false := by
  cases q <;> first | exact ⟨rfl, rfl, rfl⟩ | exact absurd hq Bool.false_ne_true

/-! ## What a watch depends on -/

namespace Updater

variable (u : Updater)

theorem attempt_alike (r : Repository) (t : Task) (parameters : List Parameter) :
    (u.attempt r t parameters).Alike Request.isHeard (u.attempt r t parameters) := by
  have hheard : ∀ q : Request, q.isOfGit → q.isHeard = true := fun _ => Request.isHeard_of_isOfGit
  rw [attempt_eq]
  refine ((u.client.checkout_only r).mono hheard).alike.bind fun
    | .error e => .done _
    | .ok copy => ?_
  show (u.useCopy r t parameters copy).Alike _ (u.useCopy r t parameters copy)
  unfold useCopy
  split
  · exact .done _
  · exact .done _
  · exact ((u.client.push_only ..).mono hheard).alike.bind fun
      | .error e => .done _
      | .ok () => .ignores rfl fun _ _ => .done _

/-- The clock decides how long an update waits before it tries again, and nothing else. -/
theorem retrying_alike (b : Backoff) {body : Program (Except GitOpsError Unit)}
    (hbody : body.Alike Request.isHeard body) (left number : Nat) :
    (retrying b body left number).Alike Request.isHeard (retrying b body left number) := by
  induction left generalizing number with
  | zero => exact hbody
  | succ left ih =>
    rw [retrying_succ]
    refine hbody.bind fun result => ?_
    cases result with
    | ok _ => exact .done _
    | error e =>
      dsimp only
      split
      · exact .ignores rfl fun _ _ => .sleeps (fun _ => rfl) (ih _)
      · exact .done _

theorem update_alike (a : Application) (t : Task) :
    (u.update a t).Alike Request.isHeard (u.update a t) := by
  rw [update_eq]
  split
  · exact .done _
  · exact .done _
  · exact .ignores rfl fun _ _ =>
      (retrying_alike _ (u.attempt_alike _ t _) _ _).bind fun _ => .ignores rfl fun _ _ => .done _

end Updater

namespace Watcher

variable (w : Watcher) (t : Task)

theorem look_alike {baseline : String} {pending : Pending → Application → Program Outcome}
    (hpending : ∀ why a, (pending why a).Alike Request.isHeard (pending why a)) :
    (w.look t baseline pending).Alike Request.isHeard (w.look t baseline pending) := by
  rw [look_eq]
  refine .hears rfl fun x => ?_
  cases x with
  | error e => exact .done _
  | ok a =>
    dsimp only
    split
    · exact .done _
    · exact hpending _ _

theorem pollTimes_alike (baseline : String) (left : Nat) :
    (w.pollTimes t baseline left).Alike Request.isHeard (w.pollTimes t baseline left) := by
  induction left with
  | zero => exact w.look_alike t fun _ _ => .done _
  | succ left ih => exact w.look_alike t fun _ _ => .sleeps (fun _ => rfl) ih

theorem observe_alike : (w.observe t).Alike Request.isHeard (w.observe t) := by
  rw [observe_eq]
  refine .hears rfl fun x => ?_
  cases x with
  | error e => exact .done _
  | ok a =>
    have hupdate : (w.updateOverrides a t).Alike Request.isHeard (w.updateOverrides a t) := by
      unfold updateOverrides
      cases w.updater with
      | none => exact .done _
      | some u => exact u.update_alike a t
    refine hupdate.bind fun result => ?_
    cases result with
    | error e => exact .done _
    | ok _ => exact w.pollTimes_alike t _ _

/-- **A watch depends on the control plane and the repositories alone.** -/
theorem watch_alike : (w.watch t).Alike Request.isHeard (w.watch t) := by
  rw [watch_eq]
  refine .ignores rfl fun _ _ => .ignores rfl fun _ _ => (w.observe_alike t).bind fun o => ?_
  exact .ignores rfl fun _ _ => .ignores rfl fun _ _ => .ignores rfl fun _ _ =>
    .ignores rfl fun _ _ => .done _

/-! ## What a watch asks for -/

theorem outcomeMetric_eq (app : String) (o : Outcome) :
    outcomeMetric app o = if o = .deployed then .reset app else .failed app := by
  cases o <;> rfl

section Requests

variable {σ : Type} (s : Surroundings σ) (v : σ)

/-- The state in which the observation of a watch begins. -/
def begun : σ := (s.answer (.announce t) (s.answer (.record .entered) v).2).2

/-- The outcome of the observation of a watch. -/
def outcomeIn : Outcome := ((w.observe t).run s (begun t s v)).1

/-- What a watch asks for after its observation. -/
def reports (o : Outcome) : List Request :=
  [.record (outcomeMetric t.app o), .setStatus t.id o.stored.1 o.stored.2,
    .announce { t with status := o.stored.1, reason := o.stored.2 }, .record .left]

theorem watch_requests : (w.watch t).requests s v = [.record .entered, .announce t] ++
    (w.observe t).requests s (begun t s v) ++ reports t (w.outcomeIn t s v) := by
  rw [watch_eq, Program.requests_ask, Program.requests_ask, Program.requests_bind]
  rfl

/-- Of what an observation does not ask for, only a watch's own requests are left. -/
theorem watch_filter (kind : Request → Bool) (hkind : ∀ q : Request, q.isOfObservation → kind q = false) :
    ((w.watch t).requests s v).filter kind =
      ([Request.record .entered, .announce t] ++ reports t (w.outcomeIn t s v)).filter kind := by
  have hobserved : ((w.observe t).requests s (begun t s v)).filter kind = [] := by
    refine List.filter_eq_nil_iff.mpr fun r hr => ?_
    rw [(w.observe_only t hkind).history _ r hr]
    exact Bool.false_ne_true
  rw [watch_requests, List.filter_append, List.filter_append, hobserved, List.append_nil,
    List.filter_append]

end Requests

/-! ## Two watches -/

theorem filter_untimed {kind : Request → Bool} (hkind : ∀ duration, kind (.sleep duration) = false)
    (rs : List Request) : (rs.map Request.untimed).filter kind = rs.filter kind := by
  induction rs with
  | nil => rfl
  | cons r rs ih =>
    rw [List.map_cons, List.filter_cons, List.filter_cons, ih]
    cases r with
    | sleep duration =>
      rw [Request.untimed, hkind, hkind]
      rfl
    | _ => rfl

/-- With one script, observations end alike. -/
theorem outcomeIn_scripted (script : List Exchange → (r : Request) → r.Answer) {σ σ' : Type}
    (s : Surroundings σ) (s' : Surroundings σ') (v : σ) (v' : σ') :
    w.outcomeIn t (s'.scripted Request.isHeard script) (v', []) =
      w.outcomeIn t (s.scripted Request.isHeard script) (v, []) :=
  ((w.observe_alike t).run_eq script s s' _ _ []).1

/-- **The life of a watch.** It announces the task as it was admitted, before it asks for anything else, and
observes the rollout; then it measures a success or a failure of the application, according to the outcome,
stores status and reason of the outcome, which are never those of a task in progress or aborted, and
announces the task with these. It announces, stores and measures nothing else.

With the same answers of the control plane and the repositories, two watches of a task have the same
outcome, fetch as often, and announce, store and measure the same, whatever came of the announcements and
the write, and whoever held locks and set the clock. -/
theorem watch_lifecycle {σ : Type} (s : Surroundings σ) (v : σ) :
    let o := w.outcomeIn t s v
    let asked := (w.watch t).requests s v
    let measured := Request.record (if o = .deployed then .reset t.app else .failed t.app)
    (∃ status reason, o.StoredAs status reason ∧
      (∀ status' reason', o.StoredAs status' reason' → status' = status ∧ reason' = reason) ∧
      status ≠ .inProgress ∧ status ≠ .aborted ∧
      asked = [.record .entered, .announce t] ++ (w.observe t).requests s (begun t s v) ++
        [measured, .setStatus t.id status reason,
          .announce { t with status := status, reason := reason }, .record .left] ∧
      asked.filter (·.announces) =
        [.announce t, .announce { t with status := status, reason := reason }] ∧
      asked.filter (·.writesTasks) = [.setStatus t.id status reason] ∧
      asked.filter (·.measures) = [.record .entered, measured, .record .left]) ∧
    ∀ (script : List Exchange → (r : Request) → r.Answer) {σ' : Type} (s' : Surroundings σ') (v' : σ'),
      let first := s.scripted Request.isHeard script
      let second := s'.scripted Request.isHeard script
      let asked := (w.watch t).requests first (v, [])
      let asked' := (w.watch t).requests second (v', [])
      w.outcomeIn t second (v', []) = w.outcomeIn t first (v, []) ∧
      asked'.filter (·.isFetch) = asked.filter (·.isFetch) ∧
      asked'.filter (·.announces) = asked.filter (·.announces) ∧
      asked'.filter (·.writesTasks) = asked.filter (·.writesTasks) ∧
      asked'.filter (·.measures) = asked.filter (·.measures) := by
  intro o asked measured
  have hmeasured : Request.record (outcomeMetric t.app o) = measured :=
    congrArg Request.record (outcomeMetric_eq t.app o)
  have hunique (status : Status) (reason : String) (h : o.StoredAs status reason) :
      status = o.stored.1 ∧ reason = o.stored.2 := Prod.mk.inj (Outcome.storedAs_iff.mp h)
  have hasked : asked = [.record .entered, .announce t] ++ (w.observe t).requests s (begun t s v) ++
      reports t o := w.watch_requests t s v
  rw [reports, hmeasured] at hasked
  refine ⟨⟨_, _, o.storedAs_stored, hunique, o.stored_isEnd.1, o.stored_isEnd.2, hasked, ?_, ?_, ?_⟩,
    fun script σ' s' v' => ?_⟩
  · exact w.watch_filter t s v _ fun _ hq => (Request.silent_of_isOfObservation hq).1
  · exact w.watch_filter t s v _ fun _ hq => (Request.silent_of_isOfObservation hq).2.1
  · rw [← hmeasured]
    exact w.watch_filter t s v _ fun _ hq => (Request.silent_of_isOfObservation hq).2.2
  · intro first second asked asked'
    have hsame : asked'.map Request.untimed = asked.map Request.untimed :=
      ((w.watch_alike t).run_eq script s s' v v' []).2.2
    have hfilter (kind : Request → Bool) (hkind : ∀ duration, kind (.sleep duration) = false) :
        asked'.filter kind = asked.filter kind := by
      rw [← filter_untimed hkind, ← filter_untimed hkind asked, hsame]
    exact ⟨w.outcomeIn_scripted t script s s' v v', hfilter _ fun _ => rfl, hfilter _ fun _ => rfl,
      hfilter _ fun _ => rfl, hfilter _ fun _ => rfl⟩

/-! ## An image that does not come -/

open Simulation in
/-- The new image does not come; the store can only be read, and the only channel fails. -/
def unavailableWorld : World where
  now := 0
  script := [.ok (nginxAt "v0" "Synced" "Healthy")]
  mode := .readOnly
  channels := [⟨"hook", fun _ => ⟨5, .error (.unexpectedStatus 500)⟩⟩]

open Simulation in
/-- Store and channels fail, and what is written and announced is the same as in a world where they do not. -/
theorem watch_lifecycle_unavailable :
    let watched := ({} : Watcher).watch nginxTask
    let asked := watched.requests World.surroundings unavailableWorld
    let reason := "Application deployment failed. Rollout status \"not available\"\n\n" ++
      "List of current images (last app check):\n\tdemo/nginx:v0\n\n" ++
      "List of expected images:\n\tdemo/nginx:v1\n"
    let scripted := World.surroundings.scripted Request.isHeard fun _ r =>
      (World.surroundings.answer r unavailableWorld).1
    asked.filter (·.announces) =
      [.announce nginxTask, .announce { nginxTask with status := .failed, reason := reason }] ∧
    asked.filter (·.writesTasks) = [.setStatus .nil .failed reason] ∧
    asked.filter (·.measures) = [.record .entered, .record (.failed "demo"), .record .left] ∧
    (World.surroundings.answer (.setStatus .nil .failed reason) unavailableWorld).1 = .error poolTimeout ∧
    (watched.requests scripted ({ now := 0 }, [])).filter (·.writesTasks) =
      (watched.requests scripted (unavailableWorld, [])).filter (·.writesTasks) ∧
    (watched.requests scripted ({ now := 0 }, [])).filter (·.announces) =
      (watched.requests scripted (unavailableWorld, [])).filter (·.announces) := by
  intro watched asked reason scripted
  obtain ⟨⟨status, text, -, hunique, -, -, -, hannounced, hwritten, hmeasured⟩, hsame⟩ :=
    watch_lifecycle {} nginxTask World.surroundings unavailableWorld
  have houtcome : ({} : Watcher).outcomeIn nginxTask World.surroundings unavailableWorld =
      .failed (.notAvailable ["demo/nginx:v0"] ["demo/nginx:v1"]) := by decide +kernel
  rw [houtcome] at hunique hmeasured
  obtain ⟨rfl, htext⟩ := hunique _ _ (.notAvailable (.last "demo/nginx:v0") (.last "demo/nginx:v1"))
  have hreason : reason = text := Eq.trans (by decide +kernel) htext
  obtain ⟨-, -, hannounced', hwritten', -⟩ := hsame
    (fun _ r => (World.surroundings.answer r unavailableWorld).1) World.surroundings { now := 0 }
  exact ⟨hreason ▸ hannounced, hreason ▸ hwritten, hmeasured, rfl, hwritten', hannounced'⟩

end Watcher

end DeployWatch
