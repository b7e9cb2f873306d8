import DeployWatch.Proofs.GitOps.BareHost

/-!
# Updates do all or nothing

* `Updater.Authorised`: when an update may write, and where;
* `target?_eq_some_iff`, `update_of_not_authorised`: nothing is asked for otherwise;
* `update_ensures`, `authorised_update_ensures`: what comes of an update that may write;
* **`update_all_or_nothing`**: an update writes its parameters with one push, or changes nothing.
-/

namespace DeployWatch

open FileTree (placeOf)
open Program (ask done Ensures)

namespace Updater

/-- The same updates with the repositories that the surroundings give access to. -/
def remotely (u : Updater) : Updater := { u with client := .remote }

/-- An update may write to a repository: the application is managed, the task may do so, the location
is that of the application, and some expected image has an alias. -/
def Authorised (a : Application) (t : Task) (r : Repository) : Prop :=
  a.watch.managed = true ∧ t.validated = true ∧ Repository.resolve a a.watch = .ok r ∧
    ∃ i ∈ t.images, (a.watch.aliasFor? i.repository).isSome = true

variable {a : Application} {t : Task} {r : Repository}

theorem imageParameters_ne_nil_iff (notes : Annotations) :
    imageParameters t notes ≠ [] ↔ ∃ i ∈ t.images, (notes.aliasFor? i.repository).isSome = true := by
  unfold imageParameters
  rw [ne_eq, List.filterMap_eq_nil_iff]
  simp [Option.isSome_iff_ne_none]

theorem target?_eq_some_iff {ps : List Parameter} :
    target? a t = .ok (some (r, ps)) ↔ Authorised a t r ∧ ps = imageParameters t a.watch := by
  unfold target? Authorised
  rw [← imageParameters_ne_nil_iff]
  cases a.watch.managed with
  | false => simp
  | true =>
    cases t.validated with
    | false => simp
    | true =>
      cases Repository.resolve a a.watch with
      | error f => simp
      | ok r' =>
        by_cases hp : imageParameters t a.watch = []
        · simp [hp]
        · have hempty : (imageParameters t a.watch).isEmpty = false := by simpa using hp
          rw [hempty]
          simp only [Bool.not_true, Bool.or_false, Bool.false_eq_true, if_false, Except.ok.injEq,
            Option.some.injEq, Prod.mk.injEq, true_and, ne_eq, hp, not_false_eq_true, and_true]
          exact and_congr_right fun _ => eq_comm

theorem update_of_not_authorised (u : Updater) (h : ∀ r, ¬ Authorised a t r) :
    ∃ result, u.update a t = done result := by
  rw [update_eq]
  split
  · exact ⟨_, rfl⟩
  · exact ⟨_, rfl⟩
  · rename_i r ps htarget
    exact absurd (target?_eq_some_iff.mp htarget).1 (h r)

theorem update_of_authorised (u : Updater) (h : Authorised a t r) : u.update a t =
    ask (.acquire t.app) fun _ => (u.commit r t (imageParameters t a.watch)).bind fun result =>
      ask (.release t.app) fun _ => done result := by
  rw [update_eq, target?_eq_some_iff.mpr ⟨h, rfl⟩]

/-- What all attempts make sure of, an update makes sure of, if taking and giving back the lock does not
matter. -/
theorem update_ensures {σ ν : Type} {s : Surroundings σ} {view : σ → ν} {v : ν}
    {Q : Except GitOpsError Unit → List Exchange → ν → Prop} (u : Updater) (h : Authorised a t r)
    (hacquire : ∀ w, view (s.answer (.acquire t.app) w).2 = view w)
    (hrelease : ∀ w, view (s.answer (.release t.app) w).2 = view w)
    (hcommit : (u.commit r t (imageParameters t a.watch)).Ensures s view v Q)
    (hlock : ∀ result h v', Q result h v' →
      Q result (⟨.acquire t.app, ()⟩ :: (h ++ [⟨.release t.app, ()⟩])) v') :
    (u.update a t).Ensures s view v Q := by
  rw [update_of_authorised u h]
  refine Ensures.ask hacquire fun _ => hcommit.bind fun result h v' hQ => ?_
  exact Ensures.ask hrelease fun _ => Ensures.done (hlock result h v' hQ)

theorem authorised_update_ensures {σ : Type} {s : Surroundings σ} {tree : σ → FileTree}
    (hs : Hosting s r tree) (u : Updater) (hclient : u.client = .remote)
    (hl : u.layer.RoundTrips) (h : Authorised a t r) (v : FileTree) :
    (u.update a t).Ensures s tree v (CommitEffect u.layer (overridePath r t.app)
      (imageParameters t a.watch) (committed r t (imageParameters t a.watch)) v) := by
  have hps := (imageParameters_ne_nil_iff a.watch).mpr h.2.2.2
  refine update_ensures u h (fun w => hs.quiet _ w rfl) (fun w => hs.quiet _ w rfl)
    (commit_ensures hs u hclient hl t hps v) fun result h v' he => he.of_marks ?_ ?_
  · exact (pushes_append h _).trans (List.append_nil _)
  · exact (audits_append h _).trans (List.append_nil _)

/-- What is audited of an update: the application, the task, the place, and the tag of each image that has
an alias. -/
theorem committed_imageParameters (r : Repository) (t : Task) (notes : Annotations) :
    committed r t (imageParameters t notes) =
      .committed t.app t.id.render (r.url ++ "@" ++ r.branch ++ ":" ++ r.path)
        (t.images.filterMap fun i => (notes.aliasFor? i.repository).map fun name =>
          name ++ ".image.tag" ++ "=" ++ i.tag) := by
  unfold committed imageParameters
  rw [List.map_filterMap]
  simp only [Option.map_map]
  rfl

/-- **Updates do all or nothing.** An update that may not write asks for nothing. One that may write
pushes once at most and writes an audit event exactly if it pushed, with the application, the task, the
place and the tags; it changes no file but the application's override file; if it fails, the branch is as
before, however often it tried; and if it succeeds, the override file on the branch has, for each parameter
of the task, the tag of the last image mapped to it. -/
theorem update_all_or_nothing (u : Updater) (hl : u.layer.RoundTrips) (a : Application) (t : Task)
    {σ : Type} (s : Surroundings σ) (w : σ) :
    let update := u.remotely.update a t
    let result := (update.run s w).1
    let after := (update.run s w).2
    let history := update.history s w
    ((∀ r, ¬ Authorised a t r) → history = [] ∧ after = w) ∧
      ∀ r (tree : σ → FileTree), Authorised a t r → Hosting s r tree →
        let file := overridePath r t.app
        (pushes history).length ≤ 1 ∧
        audits history = (pushes history).map (fun _ =>
          .committed t.app t.id.render (r.url ++ "@" ++ r.branch ++ ":" ++ r.path)
            (t.images.filterMap fun i => (a.watch.aliasFor? i.repository).map fun name =>
              name ++ ".image.tag" ++ "=" ++ i.tag)) ∧
        (∀ q, q ≠ placeOf (steps file) → (tree after).fileAt? q = (tree w).fileAt? q) ∧
        (∀ e, result = .error e → tree after = tree w) ∧
        (result = .ok () → ∃ f, Holds u.layer (tree after) file f ∧
          ∀ name tag, lastTag? t a.watch name = some tag →
            named? name f.parameters = some ⟨name, tag, true⟩) := by
  intro update result after history
  refine ⟨fun hnone => ?_, fun r tree hauthorised hhosting => ?_⟩
  · obtain ⟨x, hx⟩ := update_of_not_authorised u.remotely hnone
    have hupdate : update = done x := hx
    simp only [history, after, hupdate, Program.history_done, Program.run_done, and_self]
  · have heffect := (authorised_update_ensures hhosting u.remotely rfl hl hauthorised (tree w)).run
    rw [← committed_imageParameters]
    change CommitEffect u.layer (overridePath r t.app) (imageParameters t a.watch)
      (committed r t (imageParameters t a.watch)) (tree w) result history (tree after) at heffect
    have htags : ∀ ps name tag, lastTag? t a.watch name = some tag →
        named? name (putAll (imageParameters t a.watch) ps) = some ⟨name, tag, true⟩ :=
      fun ps name tag h => named?_putAll_imageParameters h ps
    generalize result = x, history = h, tree after = v' at heffect ⊢
    cases heffect with
    | failed e hq =>
      rw [hq.1, hq.2]
      exact ⟨Nat.zero_le 1, rfl, fun _ _ => rfl, fun _ _ => rfl, fun h => by cases h⟩
    | current hq hf happly =>
      rw [hq.1, hq.2]
      refine ⟨Nat.zero_le 1, rfl, fun _ _ => rfl, fun _ _ => rfl, fun _ => ⟨_, hf, ?_⟩⟩
      rw [← happly, OverrideFile.apply_eq]
      exact htags _
    | pushed hp ha hf hholds hothers =>
      rw [hp, ha]
      refine ⟨Nat.le_refl 1, rfl, hothers, fun e h => (by cases h), fun _ => ⟨_, hholds, ?_⟩⟩
      rw [OverrideFile.apply_eq]
      exact htags _

/-! ## An update whose first push is refused -/

/-- A managed application whose sources lie in the directory `web`. -/
def shopApplication : Application where
  metadata := { annotations := some (.ofList [("argo-watcher/managed", "true"),
    ("argo-watcher/managed-images", "web=registry/web")]) }
  spec := { source := some ⟨"git@host:apps.git", "main", "web"⟩ }

def shopTask : Task :=
  Submission.toTask
    { app := "shop", images := [⟨"registry/web", "v1"⟩, ⟨"registry/web", "v2"⟩], validated := true }
    (Simulation.taskId 0) (.ofNanos 0)

/-- The directory `web` of the branch `main`. -/
def shopRepository : Repository := ⟨"git@host:apps.git", "main", "web"⟩

def shopUpdater : Updater := { layer := .checked }

theorem shop_authorised : Authorised shopApplication shopTask shopRepository :=
  ⟨by decide +kernel, rfl, eq_ok_of_toOption (by decide +kernel), ⟨"registry/web", "v2"⟩,
    by decide +kernel, by decide +kernel⟩

theorem update_all_or_nothing_after_refusal :
    shopUpdater.layer.RoundTrips ∧ Hosting bareHost shopRepository Bare.tree ∧
      audits ((shopUpdater.remotely.update shopApplication shopTask).history bareHost ⟨{}, 1⟩) =
        [.committed "shop" shopTask.id.render "git@host:apps.git@main:web"
          ["web.image.tag=v1", "web.image.tag=v2"]] ∧
      ∃ f, Holds shopUpdater.layer
          ((shopUpdater.remotely.update shopApplication shopTask).run bareHost ⟨{}, 1⟩).2.tree
          (overridePath shopRepository shopTask.app) f ∧
        named? "web.image.tag" f.parameters = some ⟨"web.image.tag", "v2", true⟩ := by
  have htag : lastTag? shopTask shopApplication.watch "web.image.tag" = some "v2" := by
    decide +kernel
  have hresult : ((shopUpdater.remotely.update shopApplication shopTask).run bareHost ⟨{}, 1⟩).1 =
      .ok () := eq_ok_of_toOption (by decide +kernel)
  have hall := (update_all_or_nothing shopUpdater TextLayer.checked_roundTrips shopApplication shopTask
    bareHost ⟨{}, 1⟩).2 shopRepository Bare.tree shop_authorised (bareHost_hosting shopRepository)
  obtain ⟨f, hf, htags⟩ := hall.2.2.2.2 hresult
  have hpushed : (pushes ((shopUpdater.remotely.update shopApplication shopTask).history bareHost
      ⟨{}, 1⟩)).length = 1 := by decide +kernel
  refine ⟨TextLayer.checked_roundTrips, bareHost_hosting shopRepository, hall.2.1.trans ?_, f, hf,
    htags _ _ htag⟩
  obtain ⟨push, hpush⟩ := List.length_eq_one_iff.mp hpushed
  rw [hpush, List.map_singleton]
  decide +kernel

end Updater

end DeployWatch
