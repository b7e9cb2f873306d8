import DeployWatch.Proofs.Application.ManagedImages
import DeployWatch.Proofs.GitOps.MergedList
import DeployWatch.Proofs.GitOps.Repeated

/-!
# The tags that an update writes

An update sets one parameter for each expected image whose repository has an alias. A repository may have
several aliases; then the parameter is that of the first.

* `watch_managedImages`: an application's aliases are those of its annotation;
* `setBy`, `set_once`: if each image has a repository of its own, no parameter is set twice;
* **`update_sets_first_aliases`**: which parameters an update sets;
* `further_alias_not_set`: a further alias of a repository keeps its old tag.
-/

namespace DeployWatch

open Annotations (Maps FirstAlias aliasFor?_eq_some_iff)
open Program (ask done)

theorem watch_managedImages {a : Application} {notes : SortedMap String} {text : String}
    (hnotes : a.metadata.annotations = some notes)
    (htext : notes.find? "argo-watcher/managed-images" = some text) :
    a.watch.managedImages = Annotations.parseManagedImages text := by
  rw [Application.watch, hnotes]
  simp only [Option.map_some, Option.getD_some, Annotations.parse, htext]

namespace Updater

/-- The parameter of an alias, if an image sets it. -/
def setBy (notes : Annotations) (name : String) (i : Image) : Option Parameter :=
  ((notes.aliasFor? i.repository).map fun name => ⟨imageTagParameter name, i.tag, true⟩).filter
    fun p : Parameter => p.name = imageTagParameter name

theorem filter_imageParameters (t : Task) (notes : Annotations) (name : String) :
    (imageParameters t notes).filter (fun p => p.name = imageTagParameter name) =
      t.images.filterMap (setBy notes name) := List.filter_filterMap

section Named

variable {notes : Annotations} {text : String}
  (hnotes : notes.managedImages = Annotations.parseManagedImages text) {i : Image} {name : String}
  (hname : FirstAlias text i.repository name)

include hnotes hname

theorem setBy_of_first : setBy notes name i = some ⟨imageTagParameter name, i.tag, true⟩ := by
  rw [setBy, (aliasFor?_eq_some_iff hnotes).mpr hname]
  simp

/-- Images of other repositories have other aliases. -/
theorem setBy_of_other {j : Image} (hj : j.repository ≠ i.repository) : setBy notes name j = none := by
  rw [setBy, Option.filter_eq_none_iff]
  intro p hp hsame
  obtain ⟨name', hname', rfl⟩ := Option.map_eq_some_iff.mp hp
  have hfirst := (aliasFor?_eq_some_iff hnotes).mp hname'
  rw [imageTagParameter_inj (of_decide_eq_true hsame)] at hfirst
  exact hj (hfirst.maps.unique hname.maps)

/-- If each image has a repository of its own, the parameter of an image's alias is set once. -/
theorem set_once {t : Task} (himages : (t.images.map (·.repository)).Nodup) (hi : i ∈ t.images) :
    (imageParameters t notes).filter (fun p => p.name = imageTagParameter name) =
      [⟨imageTagParameter name, i.tag, true⟩] := by
  obtain ⟨before, after, himages'⟩ := List.append_of_mem hi
  rw [himages', List.map_append, List.map_cons, List.nodup_append, List.nodup_cons] at himages
  obtain ⟨-, ⟨hafter, -⟩, hbefore⟩ := himages
  have hnone : ∀ j ∈ before ++ after, setBy notes name j = none := by
    intro j hj
    refine setBy_of_other hnotes hname fun h => ?_
    rcases List.mem_append.mp hj with hj | hj
    · exact hbefore _ (List.mem_map_of_mem hj) _ List.mem_cons_self h
    · exact hafter (h ▸ List.mem_map_of_mem hj)
  rw [filter_imageParameters, himages', List.filterMap_append,
    List.filterMap_cons_some (setBy_of_first hnotes hname),
    List.filterMap_eq_nil_iff.mpr fun j hj => hnone j (List.mem_append_left _ hj),
    List.filterMap_eq_nil_iff.mpr fun j hj => hnone j (List.mem_append_right _ hj), List.nil_append]

end Named

/-- **An update sets the first alias of each expected image.** Let an annotation map aliases to
repositories, and let each expected image have a repository of its own. If an alias is the first of those
mapped to the repository of an expected image, the update sets its parameter `image.tag` once, as a text,
to the tag of that image; and it sets no other parameters, in particular none of aliases that are mapped
to other repositories. Every repository with an alias has a first one. -/
theorem update_sets_first_aliases (u : Updater) (a : Application) (t : Task)
    (notes : SortedMap String) (text : String) (hnotes : a.metadata.annotations = some notes)
    (htext : notes.find? "argo-watcher/managed-images" = some text)
    (himages : (t.images.map (·.repository)).Nodup) :
    let ps := imageParameters t a.watch
    (∀ r, Authorised a t r → u.update a t =
      ask (.acquire t.app) fun _ => (u.commit r t ps).bind fun result =>
        ask (.release t.app) fun _ => done result) ∧
    (∀ i ∈ t.images, ∀ name, FirstAlias text i.repository name →
      ps.filter (fun p => p.name = name ++ ".image.tag") = [⟨name ++ ".image.tag", i.tag, true⟩]) ∧
    (∀ p ∈ ps, ∃ i ∈ t.images, ∃ name, FirstAlias text i.repository name ∧
      p = ⟨name ++ ".image.tag", i.tag, true⟩) ∧
    (∀ name repository, Maps text name repository →
      (∀ i ∈ t.images, i.repository ≠ repository) → name ++ ".image.tag" ∉ namesOf ps) ∧
    ∀ name repository, Maps text name repository → ∃ first, FirstAlias text repository first := by
  intro ps
  have hmap := watch_managedImages hnotes htext
  have hmem : ∀ p ∈ ps, ∃ i ∈ t.images, ∃ name, FirstAlias text i.repository name ∧
      p = ⟨name ++ ".image.tag", i.tag, true⟩ := by
    intro p hp
    obtain ⟨i, hi, name, hname, rfl⟩ := mem_imageParameters.mp hp
    exact ⟨i, hi, name, (aliasFor?_eq_some_iff hmap).mp hname, rfl⟩
  refine ⟨fun r hr => update_of_authorised u hr, fun i hi name hname => ?_, hmem, ?_, ?_⟩
  · exact set_once hmap hname himages hi
  · intro name repository hmaps hnone hset
    obtain ⟨p, hp, hpname⟩ := mem_namesOf.mp hset
    obtain ⟨i, hi, name', hfirst, rfl⟩ := hmem p hp
    rw [imageTagParameter_inj hpname] at hfirst
    exact hnone i hi (hfirst.maps.unique hmaps)
  · exact fun name repository hmaps => Annotations.exists_firstAlias hmaps

/-! ## A repository with two aliases -/

/-- The annotations of an application that uses one image under two aliases. -/
def sharedAnnotations : SortedMap String :=
  .ofList [("argo-watcher/managed", "true"),
    ("argo-watcher/managed-images", "web=registry/web,api=registry/web,db=registry/db")]

def sharedApplication : Application :=
  { shopApplication with metadata := { annotations := some sharedAnnotations } }

theorem update_sets_first_aliases_shared :
    (mixedShopTask.images.map (·.repository)).Nodup ∧
      (imageParameters mixedShopTask sharedApplication.watch).filter
        (fun p => p.name = "api.image.tag") = [⟨"api.image.tag", "v1", true⟩] ∧
      "db.image.tag" ∉ namesOf (imageParameters mixedShopTask sharedApplication.watch) := by
  have hdistinct : (mixedShopTask.images.map (·.repository)).Nodup := by decide +kernel
  obtain ⟨-, hset, -, hunset, -⟩ := update_sets_first_aliases shopUpdater sharedApplication
    mixedShopTask sharedAnnotations "web=registry/web,api=registry/web,db=registry/db" rfl
    (by decide +kernel) hdistinct
  have hfirst : FirstAlias "web=registry/web,api=registry/web,db=registry/db" "registry/web" "api" :=
    (aliasFor?_eq_some_iff (watch_managedImages (a := sharedApplication) rfl (by decide +kernel))).mp
      (by decide +kernel)
  exact ⟨hdistinct, hset ⟨"registry/web", "v1"⟩ List.mem_cons_self "api" hfirst,
    hunset "db" "registry/db" (by decide +kernel) (by decide +kernel)⟩

/-- **A further alias is not set.** The annotation maps `web` to the repository of an expected image, each
image has a repository of its own and the update may write, but no parameter is that of `web`. -/
theorem further_alias_not_set :
    Maps "web=registry/web,api=registry/web,db=registry/db" "web" "registry/web" ∧
      Authorised sharedApplication mixedShopTask shopRepository ∧
      (mixedShopTask.images.map (·.repository)).Nodup ∧
      (⟨"registry/web", "v1"⟩ : Image) ∈ mixedShopTask.images ∧
      "web.image.tag" ∉ namesOf (imageParameters mixedShopTask sharedApplication.watch) := by
  refine ⟨by decide +kernel, ?_, by decide +kernel, by decide +kernel, by decide +kernel⟩
  exact ⟨by decide +kernel, rfl, eq_ok_of_toOption (by decide +kernel), ⟨"registry/web", "v1"⟩,
    by decide +kernel, by decide +kernel⟩

end Updater

end DeployWatch
