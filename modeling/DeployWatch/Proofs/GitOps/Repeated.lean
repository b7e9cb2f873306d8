import DeployWatch.Proofs.GitOps.AllOrNothing

/-!
# Updates that are made again

A second update for the same task finds its parameters in the file, unless images of the task disagree
about them.

* `Updater.Unambiguous`, `consistent_imageParameters_iff`: no parameter of a task gets different tags;
* `CommitEffect.holds_merged`, `merged_again`: what a successful update leaves is up to date;
* `settled_update_ensures`: an update that finds an up-to-date file asks for no push;
* `divided_update_ensures`: with different tags for one parameter, only a push lets an update succeed;
* **`update_settles`**: what a second update does.
-/

namespace DeployWatch

open Program (ask done Ensures)

/-! ## The file after an update -/

theorem CommitEffect.holds_merged {l : TextLayer} {file : String} {ps : List Parameter}
    {event : AuditEvent} {v v' : FileTree} {h : List Exchange}
    (he : CommitEffect l file ps event v (.ok ()) h v') :
    ∃ f : OverrideFile, Holds l v' file (f.apply ps).1 := by
  cases he with
  | current _ hf happly => exact ⟨_, happly.symm ▸ hf⟩
  | pushed _ _ _ hholds _ => exact ⟨_, hholds⟩

theorem OverrideFile.merged_again {ps : List Parameter} (hps : Consistent ps) (f : OverrideFile) :
    ((f.apply ps).1.apply ps).2 = false := by
  have hagain := hps.merge_again f.parameters
  rw [← mergeParameters_fst] at hagain
  exact hagain

namespace Updater

/-! ## Images that disagree -/

/-- Images with one alias have one tag. -/
def Unambiguous (t : Task) (notes : Annotations) : Prop :=
  ∀ i ∈ t.images, ∀ j ∈ t.images, ∀ name, notes.aliasFor? i.repository = some name →
    notes.aliasFor? j.repository = some name → i.tag = j.tag

theorem mem_imageParameters {t : Task} {notes : Annotations} {p : Parameter} :
    p ∈ imageParameters t notes ↔ ∃ i ∈ t.images, ∃ name, notes.aliasFor? i.repository = some name ∧
      p = ⟨imageTagParameter name, i.tag, true⟩ := by
  simp only [imageParameters, List.mem_filterMap, Option.map_eq_some_iff, eq_comm (a := p)]

theorem imageTagParameter_inj {name name' : String}
    (h : imageTagParameter name = imageTagParameter name') : name = name' := by
  unfold imageTagParameter at h
  exact String.append_left_inj _ |>.mp h

theorem consistent_imageParameters_iff {t : Task} {notes : Annotations} :
    Consistent (imageParameters t notes) ↔ Unambiguous t notes := by
  constructor
  · intro h i hi j hj name hname hname'
    have hsame := h _ (mem_imageParameters.mpr ⟨i, hi, name, hname, rfl⟩) _
      (mem_imageParameters.mpr ⟨j, hj, name, hname', rfl⟩) rfl
    exact congrArg Parameter.value hsame
  · intro h p hp q hq hpq
    obtain ⟨i, hi, name, hname, rfl⟩ := mem_imageParameters.mp hp
    obtain ⟨j, hj, name', hname', rfl⟩ := mem_imageParameters.mp hq
    obtain rfl := imageTagParameter_inj hpq
    rw [h i hi j hj name hname hname']

/-! ## Updates of an up-to-date file -/

section Settled

variable {σ : Type} {s : Surroundings σ} {r : Repository} {tree : σ → FileTree}
  (hs : Hosting s r tree) (u : Updater) (hclient : u.client = .remote) {t : Task}

/-- A history of requests that ask for no push. -/
def Pushless (h : List Exchange) : Prop := ∀ e ∈ h, e.request.isPush = false

include hs hclient

theorem settled_attempt_ensures {ps : List Parameter} {f : OverrideFile} {v : FileTree}
    (hf : Holds u.layer v (overridePath r t.app) f) (hps : (f.apply ps).2 = false) :
    (u.attempt r t ps).Ensures s tree v fun _ h v' => v' = v ∧ Pushless h := by
  have hedit : editOverrides u.layer ps v (overridePath r t.app) = .ok none := by
    rw [editOverrides_eq hf.readOverrides, hps]
    rfl
  refine attempt_ensures_of_copy hs u hclient (fun e => ⟨rfl, by simp [Pushless, Request.isPush]⟩)
    fun copy hcopy => ?_
  unfold useCopy
  rw [hcopy, hedit]
  exact Ensures.done ⟨rfl, by simp [Pushless, Request.isPush]⟩

/-- **An update that finds an up-to-date file asks for no push.** -/
theorem settled_update_ensures {a : Application} (ha : Authorised a t r) {f : OverrideFile}
    {v : FileTree} (hf : Holds u.layer v (overridePath r t.app) f)
    (hps : (f.apply (imageParameters t a.watch)).2 = false) :
    (u.update a t).Ensures s tree v fun _ h v' => v' = v ∧ Pushless h := by
  have hcommit : (u.commit r t (imageParameters t a.watch)).Ensures s tree v
      fun _ h v' => v' = v ∧ Pushless h := by
    refine retrying_ensures (fun w => hs.quiet _ w rfl) (fun _ w => hs.quiet _ w rfl)
      (settled_attempt_ensures hs u hclient hf hps) (fun e h v' hQ => ?_) _ _
    refine ⟨hQ.1, fun nanos duration result h' v'' hQ' => ⟨hQ'.1, fun e he => ?_⟩⟩
    simp only [List.mem_append, List.mem_cons] at he
    obtain he | rfl | rfl | he := he
    · exact hQ.2 e he
    · rfl
    · rfl
    · exact hQ'.2 e he
  refine update_ensures u ha (fun w => hs.quiet _ w rfl) (fun w => hs.quiet _ w rfl) hcommit
    fun result h v' hQ => ⟨hQ.1, fun e he => ?_⟩
  simp only [List.mem_cons, List.mem_append, List.not_mem_nil, or_false] at he
  obtain rfl | he | rfl := he
  · rfl
  · exact hQ.2 e he
  · rfl

end Settled

/-! ## Updates with different tags for one parameter -/

section Divided

variable {σ : Type} (s : Surroundings σ) (u : Updater) (hclient : u.client = .remote) {t : Task}
  {r : Repository}

include hclient

/-- The tags replace one another in the file, so that there is always something to write. -/
theorem divided_attempt_ensures {ps : List Parameter} (hps : ¬ Consistent ps) :
    (u.attempt r t ps).Ensures s (fun _ => ()) () fun result h _ =>
      result = .ok () → pushes h ≠ [] := by
  have hedit : ∀ files, editOverrides u.layer ps files (overridePath r t.app) ≠ .ok none := by
    intro files hnone
    obtain ⟨f, -, hflag⟩ := unchanged_of_edit hnone
    exact hps (consistent_of_unchanged hflag)
  rw [attempt_eq, hclient]
  refine Ensures.ask (fun _ => rfl) fun result => ?_
  cases result with
  | error e => exact Ensures.done fun h => by cases h
  | ok copy =>
    show (u.useCopy r t ps copy).Ensures s _ () _
    unfold useCopy
    split
    · exact Ensures.done fun h => by cases h
    · rename_i hnone
      exact absurd hnone (hedit copy.files)
    · rw [hclient]
      refine Ensures.ask (fun _ => rfl) fun result => ?_
      cases result with
      | error e => exact Ensures.done fun h => by cases h
      | ok _ =>
        exact Ensures.ask (fun _ => rfl) fun _ => Ensures.done fun _ => List.cons_ne_nil _ _

theorem divided_update_ensures {a : Application} (ha : Authorised a t r)
    (hps : ¬ Consistent (imageParameters t a.watch)) :
    (u.update a t).Ensures s (fun _ => ()) () fun result h _ => result = .ok () → pushes h ≠ [] := by
  have hlater : ∀ h h' : List Exchange, pushes h' ≠ [] → pushes (h ++ h') ≠ [] := by
    intro h h' hh'
    rw [pushes_append]
    exact List.append_ne_nil_of_right_ne_nil _ hh'
  have hcommit : (u.commit r t (imageParameters t a.watch)).Ensures s (fun _ => ()) ()
      fun result h _ => result = .ok () → pushes h ≠ [] := by
    refine retrying_ensures (fun _ => rfl) (fun _ _ => rfl)
      (divided_attempt_ensures s u hclient hps) (fun e h v' _ => ?_) _ _
    exact ⟨rfl, fun nanos duration result h' v'' hQ hresult => hlater h _ (hQ hresult)⟩
  refine update_ensures u ha (fun _ => rfl) (fun _ => rfl) hcommit fun result h _ hQ hresult => ?_
  show pushes (h ++ _) ≠ []
  rw [pushes_append]
  exact List.append_ne_nil_of_left_ne_nil (hQ hresult) _

end Divided

/-! ## The second update -/

/-- **A second update pushes nothing, unless tags replace one another.** A merge reports a change exactly
if the parameters are others than before or the batch has different parameters of one name. Once an
update has succeeded, the same update on the branch it left asks for nothing if it may not write, and
for no push if images with one alias have one tag; otherwise it cannot succeed without one more push of
the application's override file. -/
theorem update_settles (u : Updater) (hl : u.layer.RoundTrips) (a : Application) (t : Task)
    {σ : Type} (s : Surroundings σ) (w w' : σ) :
    let update := u.remotely.update a t
    (∀ (f : OverrideFile) (batch : List Parameter), (f.apply batch).2 = true ↔
      (f.apply batch).1.parameters ≠ f.parameters ∨ ¬ Consistent batch) ∧
    ((update.run s w).1 = .ok () →
      ((∀ r, ¬ Authorised a t r) → update.requests s w' = []) ∧
      ∀ r (tree : σ → FileTree), Authorised a t r → Hosting s r tree →
        tree w' = tree (update.run s w).2 →
          (Unambiguous t a.watch → ∀ q ∈ update.requests s w', q.isPush = false) ∧
          (¬ Unambiguous t a.watch → (update.run s w').1 = .ok () →
            pushes (update.history s w') = [overridePath r t.app])) := by
  intro update
  refine ⟨fun f batch => ?_, fun hfirst => ?_⟩
  · rw [OverrideFile.apply_eq]
    exact mergeParameters_snd_iff
  refine ⟨fun hnone => ?_, fun r tree ha hs htree => ⟨fun hone => ?_, fun hmany hsecond => ?_⟩⟩
  · obtain ⟨x, hx⟩ := update_of_not_authorised u.remotely hnone
    have hupdate : update = done x := hx
    rw [hupdate]
    rfl
  · have heffect := (authorised_update_ensures hs u.remotely rfl hl ha (tree w)).run
    rw [show (u.remotely.update a t).run s w = update.run s w from rfl, hfirst, ← htree] at heffect
    obtain ⟨f, hf⟩ := heffect.holds_merged
    have hcurrent := OverrideFile.merged_again (consistent_imageParameters_iff.mpr hone) f
    have hpushless := (settled_update_ensures hs u.remotely rfl ha hf hcurrent).run.2
    exact fun q hq => by
      obtain ⟨e, he, rfl⟩ := List.mem_map.mp hq
      exact hpushless e he
  · have heffect := (authorised_update_ensures hs u.remotely rfl hl ha (tree w')).run
    have hpush := (divided_update_ensures s u.remotely rfl ha
      (mt consistent_imageParameters_iff.mp hmany)).run (w := w') hsecond
    change CommitEffect _ _ _ _ _ (update.run s w').1 (update.history s w')
      (tree (update.run s w').2) at heffect
    rw [hsecond] at heffect
    generalize tree (update.run s w').2 = after at heffect
    cases heffect with
    | current hq _ _ => exact absurd hq.1 hpush
    | pushed hp _ _ _ _ => exact hp

/-- A task with two images of which one has an alias. -/
def mixedShopTask : Task :=
  Submission.toTask
    { app := "shop", images := [⟨"registry/web", "v1"⟩, ⟨"registry/cache", "v2"⟩], validated := true }
    (Simulation.taskId 0) (.ofNanos 0)

theorem update_settles_after_refusal :
    let update := shopUpdater.remotely.update shopApplication mixedShopTask
    shopUpdater.layer.RoundTrips ∧ Hosting bareHost shopRepository Bare.tree ∧
      Authorised shopApplication mixedShopTask shopRepository ∧
      Unambiguous mixedShopTask shopApplication.watch ∧
      (update.run bareHost ⟨{}, 1⟩).1 = .ok () ∧
      ∀ q ∈ update.requests bareHost (update.run bareHost ⟨{}, 1⟩).2, q.isPush = false := by
  have hone : Unambiguous mixedShopTask shopApplication.watch := by
    have hcache : shopApplication.watch.aliasFor? "registry/cache" = none := by decide +kernel
    intro i hi j hj name hname hname'
    have hcases : ∀ k ∈ mixedShopTask.images,
        shopApplication.watch.aliasFor? k.repository = some name → k.tag = "v1" := by
      intro k hk hk'
      obtain rfl | hk := List.mem_cons.mp hk
      · rfl
      · obtain rfl := List.mem_singleton.mp hk
        rw [hcache] at hk'
        cases hk'
    rw [hcases i hi hname, hcases j hj hname']
  have hauthorised : Authorised shopApplication mixedShopTask shopRepository :=
    ⟨by decide +kernel, rfl, eq_ok_of_toOption (by decide +kernel), ⟨"registry/web", "v1"⟩,
      by decide +kernel, by decide +kernel⟩
  have hfirst : ((shopUpdater.remotely.update shopApplication mixedShopTask).run bareHost
      ⟨{}, 1⟩).1 = .ok () := eq_ok_of_toOption (by decide +kernel)
  refine ⟨TextLayer.checked_roundTrips, bareHost_hosting shopRepository, hauthorised, hone, hfirst,
    ?_⟩
  have hsettles := update_settles shopUpdater TextLayer.checked_roundTrips shopApplication
    mixedShopTask bareHost ⟨{}, 1⟩
    ((shopUpdater.remotely.update shopApplication mixedShopTask).run bareHost ⟨{}, 1⟩).2
  exact ((hsettles.2 hfirst).2 shopRepository Bare.tree hauthorised
    (bareHost_hosting shopRepository) rfl).1 hone

/-- A batch may report a change of a list that it leaves as it is, and an update with two tags for one
alias pushes again what it has pushed before. -/
theorem repeated_update_pushes_again :
    let update := shopUpdater.remotely.update shopApplication shopTask
    let after := (update.run bareHost ⟨{}, 0⟩).2
    let batch : List Parameter := [⟨"a", "1", true⟩, ⟨"a", "2", true⟩]
    mergeParameters batch [⟨"a", "2", true⟩] = ([⟨"a", "2", true⟩], true) ∧
      (update.run bareHost ⟨{}, 0⟩).1.toOption = some () ∧
      pushes (update.history bareHost after) = ["web/.argocd-source-shop.yaml"] := by
  decide +kernel

end Updater

end DeployWatch
