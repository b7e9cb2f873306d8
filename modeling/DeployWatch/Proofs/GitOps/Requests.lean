import DeployWatch.GitOps.Update
import DeployWatch.Proofs.Program.History

/-!
# What an update asks for

* `Updater.attempt_eq`, `Updater.retrying_succ`, `Updater.update_eq`: updates as trees of requests;
* **`Updater.update_only`**: apart from the access to repositories, an update asks for its lock, for
  delays and for the audit only.
-/

namespace DeployWatch

open Program (ask done)

/-! ## Updates as trees of requests -/

namespace Updater

variable (u : Updater) (r : Repository) (t : Task) (parameters : List Parameter)

/-- What an attempt does with its copy. -/
def useCopy (copy : WorkingCopy) : Program (Except GitOpsError Unit) :=
  match editOverrides u.layer parameters copy.files (overridePath r t.app) with
  | .error e => done (.error e)
  | .ok none => done (.ok ())
  | .ok (some files) =>
    (u.client.push { copy with files := files } r (overridePath r t.app) (u.commitMessage t)).bind
      fun
        | .error e => done (.error e)
        | .ok () => ask (.audit (committed r t parameters)) fun _ => done (.ok ())

theorem attempt_eq : u.attempt r t parameters = (u.client.checkout r).bind fun
    | .error e => done (.error e)
    | .ok copy => u.useCopy r t parameters copy := by
  unfold attempt useCopy
  rfl

theorem retrying_succ (b : Backoff) (body : Program (Except GitOpsError Unit)) (left number : Nat) :
    retrying b body (left + 1) number = body.bind fun
      | .ok () => done (.ok ())
      | .error e =>
        if e.isRetryable then
          ask .clockNanos fun nanos =>
            ask (.sleep (b.delay (UInt32.ofNat number) nanos)) fun _ =>
              retrying b body left (number + 1)
        else done (.error e) := rfl

/-- The location and the parameters of an update that has something to write and may do so. -/
def target? (a : Application) (t : Task) : Except GitOpsError (Option (Repository × List Parameter)) :=
  if !a.watch.managed || !t.validated then .ok none
  else match Repository.resolve a a.watch with
    | .error f => .error (.unresolvable f.message)
    | .ok r =>
      if (imageParameters t a.watch).isEmpty then .ok none
      else .ok (some (r, imageParameters t a.watch))

theorem update_eq (a : Application) : u.update a t = match target? a t with
    | .error e => done (.error e)
    | .ok none => done (.ok ())
    | .ok (some (r, parameters)) =>
      ask (.acquire t.app) fun _ =>
        (u.commit r t parameters).bind fun result => ask (.release t.app) fun _ => done result := by
  unfold update target?
  dsimp only
  by_cases hm : (!a.watch.managed || !t.validated) = true
  · rw [if_pos hm, if_pos hm]
    rfl
  · rw [if_neg hm, if_neg hm]
    cases Repository.resolve a a.watch with
    | error f => rfl
    | ok r =>
      dsimp only
      by_cases he : (imageParameters t a.watch).isEmpty = true
      · rw [if_pos he, if_pos he]
        rfl
      · rw [if_neg he, if_neg he]
        simp only [Program.underLock, Program.bind_eq, Program.pure_eq, Program.request_bind,
          Program.ask_bind, Program.bind_assoc, Program.done_bind]
        congr 1
        funext _
        congr 1
        funext result
        cases result <;> rfl

end Updater

/-! ## Kinds of requests -/

/-- The requests of an update under its lock, apart from its access to repositories. -/
def Request.isOfCommit : Request → Bool
  | .clockNanos | .sleep _ | .audit _ => true
  | _ => false

def Request.isOfUpdate : Request → Bool
  | .acquire _ | .release _ => true
  | q => q.isOfCommit

namespace Updater

theorem retrying_only {P : Request → Prop} (b : Backoff) {body : Program (Except GitOpsError Unit)}
    (hclock : P .clockNanos) (hsleep : ∀ duration, P (.sleep duration)) (hbody : body.Only P)
    (left number : Nat) : (retrying b body left number).Only P := by
  induction left generalizing number with
  | zero => exact hbody
  | succ left ih =>
    rw [retrying_succ]
    refine hbody.bind fun result => ?_
    cases result with
    | ok _ => trivial
    | error e =>
      dsimp only
      split
      · exact ⟨hclock, fun _ => ⟨hsleep _, fun _ => ih _⟩⟩
      · trivial

variable (u : Updater) {P : Request → Prop} (hgit : ∀ q : Request, q.isOfGit → P q)

include hgit

theorem attempt_only (haudit : ∀ e, P (.audit e)) (r : Repository) (t : Task)
    (parameters : List Parameter) : (u.attempt r t parameters).Only P := by
  rw [attempt_eq]
  refine ((u.client.checkout_only r).mono hgit).bind fun
    | .error e => trivial
    | .ok copy => ?_
  show (u.useCopy r t parameters copy).Only P
  unfold useCopy
  split
  · trivial
  · trivial
  · exact ((u.client.push_only ..).mono hgit).bind fun
      | .error e => trivial
      | .ok () => ⟨haudit _, fun _ => trivial⟩

theorem commit_only (hP : ∀ q : Request, q.isOfCommit → P q) (r : Repository) (t : Task)
    (parameters : List Parameter) : (u.commit r t parameters).Only P :=
  retrying_only u.backoff (hP _ rfl) (fun _ => hP _ rfl)
    (u.attempt_only hgit (fun _ => hP _ rfl) r t parameters) _ _

/-- **An update asks for its lock, for delays and for the audit**, and for what its access to
repositories asks for. -/
theorem update_only (hP : ∀ q : Request, q.isOfUpdate → P q) (a : Application) (t : Task) :
    (u.update a t).Only P := by
  have hcommit : ∀ q : Request, q.isOfCommit → P q := by
    intro q hq
    refine hP q ?_
    cases q <;> first | exact hq | rfl
  rw [update_eq]
  split
  · trivial
  · trivial
  · exact ⟨hP _ rfl, fun _ => (u.commit_only hgit hcommit _ t _).bind fun _ =>
      ⟨hP _ rfl, fun _ => trivial⟩⟩

end Updater

end DeployWatch
