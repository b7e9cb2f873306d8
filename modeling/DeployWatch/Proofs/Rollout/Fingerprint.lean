import DeployWatch.Proofs.Hash.Sha256
import DeployWatch.Proofs.Rollout.Classified
import DeployWatch.Proofs.Rollout.LastPoll
import Mathlib.Data.Set.Insert

/-!
# Changed images

* `Listable`: images that can be listed with commas between them;
* `joined_injOn`, **`preimage_eq_iff`**: such a list can be read back, so what is digested for two of them
  is the same only if they have the same images as often;
* `fingerprint_eq_iff`: so is the fingerprint, as far as digests do not collide;
* `Watcher.reading_degraded_iff`, `Watcher.observe_degraded_iff`: when an answer, and when an observation,
  tells of a regression;
* **`fingerprint_tells_changes`**: that is so exactly if the images have changed since the start.
-/

namespace DeployWatch

/-- Every image has a text, with no comma in it. -/
def Listable (images : List String) : Prop := ∀ image ∈ images, image ≠ "" ∧ ',' ∉ image.toList

variable {images images' : List String}

/-! ## Lists with commas -/

/-- Of the parts between commas, those with a text are the images that were joined; without an image
there is one part, which has no text. -/
theorem splitOn_joined (h : Listable images) :
    ((",".intercalate images).toList.splitOn ',').filter (!·.isEmpty) = images.map String.toList := by
  have htexts : ∀ part ∈ images.map String.toList, (!part.isEmpty) = true := by
    intro part hpart
    obtain ⟨image, himage, rfl⟩ := List.mem_map.mp hpart
    simpa using (h image himage).1
  have hcommas : ∀ part ∈ images.map String.toList, ',' ∉ part := by
    intro part hpart
    obtain ⟨image, himage, rfl⟩ := List.mem_map.mp hpart
    exact (h image himage).2
  rw [String.toList_intercalate]
  by_cases hnone : images = []
  · rw [hnone]
    rfl
  · have hsplit := List.splitOn_intercalate ',' hcommas (by simpa using hnone)
    rw [show ",".toList = [','] from rfl, hsplit, List.filter_eq_self.mpr htexts]

theorem joined_injOn : Set.InjOn (",".intercalate ·) {images | Listable images} := by
  intro images h images' h' hjoined
  have hparts : images.map String.toList = images'.map String.toList := by
    rw [← splitOn_joined h, ← splitOn_joined h']
    exact congrArg (fun joined : String => (joined.toList.splitOn ',').filter (!·.isEmpty)) hjoined
  exact List.map_injective_iff.mpr (fun _ _ => String.toList_injective) hparts

theorem Listable.perm (h : Listable images) (hperm : images'.Perm images) : Listable images' :=
  fun image himage => h image (hperm.subset himage)

/-- **What is digested for two lists is the same only if one is the other in another order.** -/
theorem preimage_eq_iff (h : Listable images) (h' : Listable images') :
    preimage images = preimage images' ↔ images.Perm images' := by
  refine ⟨fun hpreimage => ?_, preimage_perm⟩
  have hperm := images.mergeSort_perm fun a b => a ≤ b
  have hperm' := images'.mergeSort_perm fun a b => a ≤ b
  have hsorted := joined_injOn (h.perm hperm) (h'.perm hperm') hpreimage
  exact hperm.symm.trans (hsorted ▸ hperm')

theorem fingerprint_eq_iff {messages : Set (List UInt8)} (hfree : Sha256.CollisionFree messages)
    (h : Listable images) (h' : Listable images')
    (hmessage : Sha256.message (preimage images) ∈ messages)
    (hmessage' : Sha256.message (preimage images') ∈ messages) :
    fingerprint images = fingerprint images' ↔ images.Perm images' :=
  (Sha256.hex_eq_iff hfree hmessage hmessage').trans (preimage_eq_iff h h')

/-! ## Regressions -/

namespace Watcher

variable {σ : Type} (w : Watcher) (t : Task) {baseline : String} {report : HealthReport}

theorem reading_degraded_iff {x : Sighting} :
    (w.reading t baseline x).2 = .failed (.degraded report) ↔ ∃ a, x = .ok a ∧
      a.watch.fireAndForget = false ∧ judge w.options t.images baseline a.observation = .regressed ∧
      report = .ofApplication a := by
  cases x with
  | error e => simp [reading]
  | ok a =>
    simp only [reading, Except.ok.injEq, exists_eq_left']
    by_cases hforget : a.watch.fireAndForget = true
    · simp [hforget]
    · rw [if_neg hforget]
      cases judge w.options t.images baseline a.observation with
      | deployed => simp
      | pending why => cases why <;> simp [exhausted]
      | regressed => simpa [hforget] using eq_comm

/-- An observation tells of a regression if its last answer does, compared with the first one. -/
theorem observe_degraded_iff (s : Surroundings σ) (script : Nat → Sighting) (v : σ) :
    let ended := (w.observe t).run (s.answering script) (v, 0)
    ended.1 = .failed (.degraded report) ↔ ∃ start last, script 0 = .ok start ∧
      script (ended.2.2 - 1) = .ok last ∧ last.watch.fireAndForget = false ∧
      judge w.options t.images (fingerprint start.images) last.observation = .regressed ∧
      report = .ofApplication last := by
  intro ended
  obtain ⟨houtcome, hcount, -⟩ := w.observe_run t s script v
  simp only [ended, houtcome, hcount, Nat.add_sub_cancel]
  unfold foretold
  cases hfirst : script 0 with
  | error e => simp
  | ok start =>
    dsimp only
    cases hupdate : ((w.updateOverrides start t).run s (s.answer (.application t.app) v).2).1 with
    | error e =>
      -- The only answer is the one that the baseline is taken of.
      simp [hfirst, judge_regressed_iff, Application.observation]
    | ok _ => simp [polled, reading_degraded_iff]

end Watcher

/-- **Fingerprints tell changes from other orders.** Of lists of images that do not collide, two have one
fingerprint exactly if one is the other in another order. So a degraded reading is a regression exactly if
the images are not those of the start in any order, and an observation ends with a regression exactly if
its last answer is such a reading, the start being its first answer. -/
theorem fingerprint_tells_changes {lists : Set (List String)} (hlists : ∀ l ∈ lists, Listable l)
    (hfree : Sha256.CollisionFree ((fun l => Sha256.message (preimage l)) '' lists)) :
    (∀ l ∈ lists, ∀ m ∈ lists, fingerprint l = fingerprint m ↔ l.Perm m) ∧
    (∀ options expected start o, start ∈ lists → o.images ∈ lists →
      Available options expected o.images → o.sync = "Synced" → o.health = "Degraded" →
      (judge options expected (fingerprint start) o = .regressed ↔ ¬ o.images.Perm start) ∧
      (judge options expected (fingerprint start) o = .pending .degradedUnchanged ↔
        o.images.Perm start)) ∧
    (∀ {σ : Type} (s : Surroundings σ) (w : Watcher) (t : Task) (script : Nat → Sighting) (v : σ),
      (∀ i a, script i = .ok a → a.images ∈ lists) →
      let ended := (w.observe t).run (s.answering script) (v, 0)
      ∀ report, ended.1 = .failed (.degraded report) ↔ ∃ start last, script 0 = .ok start ∧
        script (ended.2.2 - 1) = .ok last ∧ last.watch.fireAndForget = false ∧
        Available w.options t.images last.images ∧ last.syncStatus = "Synced" ∧
        last.healthStatus = "Degraded" ∧ ¬ last.images.Perm start.images ∧
        report = .ofApplication last) := by
  have heq : ∀ l ∈ lists, ∀ m ∈ lists, fingerprint l = fingerprint m ↔ l.Perm m :=
    fun l hl m hm => fingerprint_eq_iff hfree (hlists l hl) (hlists m hm)
      (Set.mem_image_of_mem _ hl) (Set.mem_image_of_mem _ hm)
  refine ⟨heq, ?_, ?_⟩
  · intro options expected start o hstart ho havailable hsync hhealth
    rw [← heq _ ho _ hstart, judge_degraded havailable hsync hhealth]
    by_cases hsame : fingerprint o.images = fingerprint start <;> simp [hsame]
  · intro σ s w t script v hscript ended report
    refine (w.observe_degraded_iff t s script v).trans ?_
    refine exists_congr fun start => exists_congr fun last => and_congr_right fun hstart =>
      and_congr_right fun hlast => and_congr_right fun _ => ?_
    have hchanged := heq _ (hscript _ _ hlast) _ (hscript _ _ hstart)
    simp only [judge_regressed_iff, Application.observation, ne_eq, hchanged, and_assoc]

/-- Two orders of the same images, and fewer images. -/
theorem fingerprint_tells_changes_reordered :
    fingerprint ["b:2", "a:1"] = fingerprint ["a:1", "b:2"] ∧
      judge {} [⟨"a", "1"⟩] (fingerprint ["b:2", "a:1"]) ⟨["a:1", "b:2"], "Synced", "Degraded"⟩ =
        .pending .degradedUnchanged ∧
      judge {} [⟨"a", "1"⟩] (fingerprint ["b:2", "a:1"]) ⟨["a:1"], "Synced", "Degraded"⟩ =
        .regressed := by
  have hperm : List.Perm ["a:1", "b:2"] ["b:2", "a:1"] := List.Perm.swap ..
  have hfewer : ¬ List.Perm ["a:1"] ["b:2", "a:1"] := fun h => absurd h.length_eq (by decide)
  let lists : Set (List String) := {["b:2", "a:1"], ["a:1", "b:2"], ["a:1"]}
  have hlists : ∀ l ∈ lists, Listable l := by
    rintro l (rfl | rfl | rfl) <;> simp [Listable]
  have hfree : Sha256.CollisionFree ((fun l => Sha256.message (preimage l)) '' lists) := by
    have hsorted : preimage ["a:1", "b:2"] = "a:1,b:2" := by
      rw [preimage, List.mergeSort_eq_self _ (by decide)]
      rfl
    have hfirst : preimage ["a:1"] = "a:1" := by
      rw [preimage, List.mergeSort_singleton]
      rfl
    rw [Set.image_insert_eq, Set.image_insert_eq, Set.image_singleton, ← preimage_perm hperm,
      Set.insert_eq_of_mem (Set.mem_insert _ _), hsorted, hfirst, Sha256.CollisionFree,
      Set.injOn_pair]
    intro h
    exact absurd h (by decide +kernel)
  obtain ⟨heq, hjudge, -⟩ := fingerprint_tells_changes hlists hfree
  have havailable : ∀ images : List String, "a:1" ∈ images → Available {} [⟨"a", "1"⟩] images := by
    rintro images hmem i hi
    obtain rfl := List.mem_singleton.mp hi
    exact .inl hmem
  have hstart : ["b:2", "a:1"] ∈ lists := .inl rfl
  have hreordered : ["a:1", "b:2"] ∈ lists := .inr (.inl rfl)
  have hfirst : ["a:1"] ∈ lists := .inr (.inr rfl)
  refine ⟨(heq _ hstart _ hreordered).mpr hperm.symm, ?_, ?_⟩
  · exact (hjudge _ _ _ _ hstart hreordered (havailable _ (by simp)) rfl rfl).2.mpr hperm
  · exact (hjudge _ _ _ _ hstart hfirst (havailable _ (by simp)) rfl rfl).1.mpr hfewer

end DeployWatch
