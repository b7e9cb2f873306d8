import DeployWatch.Rollout.Verdict
import Mathlib.Data.List.DropRight
import Mathlib.Data.List.Sort
import Mathlib.Data.String.Basic

/-!
# What a judgement says

* `Deployed`, `Available`, `CountsAsHealthy`: the conditions of a rollout, said of sets of references;
* `Classified`: the verdict that goes with the first condition that is not met;
* `isDeployed_iff`, `missingImages_iff`, **`judge_iff`**: the judgement decides them;
* `preimage_perm`, `fingerprint_perm`, `judge_congr`: what makes no difference;
* `Available.mono`, `judge_deployed_mono`: what cannot undo a rollout that has converged;
* **`judge_classified`**: all of it together.
-/

namespace DeployWatch

/-! ## Conditions -/

/-- What is left of a registry without the slashes at its end; of slashes alone nothing is left. -/
structure IsBase (proxy base : String) : Prop where
  nonempty : base ≠ ""
  bare : ∀ h, base.toList.getLast h ≠ '/'
  slashes : ∃ n, proxy.toList = base.toList ++ List.replicate n '/'

/-- The registry behind which images may be deployed has this base. -/
def CheckOptions.Behind (options : CheckOptions) (base : String) : Prop :=
  ∃ proxy, options.registryProxy = some proxy ∧ IsBase proxy base

/-- An image is deployed as such, or behind the registry. -/
def Deployed (options : CheckOptions) (images : List String) (reference : String) : Prop :=
  reference ∈ images ∨ ∃ base, options.Behind base ∧ base ++ "/" ++ reference ∈ images

def Available (options : CheckOptions) (expected : List Image) (images : List String) : Prop :=
  ∀ i ∈ expected, Deployed options images i.reference

def CountsAsHealthy (options : CheckOptions) (health : String) : Prop :=
  health = "Healthy" ∨ health = "Suspended" ∧ options.acceptSuspended = true

/-- The verdict on an observation: the first condition that is not met, if there is one. -/
inductive Classified (options : CheckOptions) (expected : List Image) (baseline : String)
    (o : Observation) : Verdict → Prop
  | notAvailable (h : ¬ Available options expected o.images) :
      Classified options expected baseline o (.pending .notAvailable)
  | notSynced (h : Available options expected o.images) (hsync : o.sync ≠ "Synced") :
      Classified options expected baseline o (.pending .notSynced)
  | deployed (h : Available options expected o.images) (hsync : o.sync = "Synced")
      (hhealth : CountsAsHealthy options o.health) : Classified options expected baseline o .deployed
  | degradedUnchanged (h : Available options expected o.images) (hsync : o.sync = "Synced")
      (hhealth : o.health = "Degraded") (hsame : fingerprint o.images = baseline) :
      Classified options expected baseline o (.pending .degradedUnchanged)
  | regressed (h : Available options expected o.images) (hsync : o.sync = "Synced")
      (hhealth : o.health = "Degraded") (hchanged : fingerprint o.images ≠ baseline) :
      Classified options expected baseline o .regressed
  | notHealthy (h : Available options expected o.images) (hsync : o.sync = "Synced")
      (hhealth : ¬ CountsAsHealthy options o.health) (hdegraded : o.health ≠ "Degraded") :
      Classified options expected baseline o (.pending .notHealthy)

variable {options : CheckOptions} {expected : List Image} {baseline : String} {o : Observation}
  {images : List String} {proxy base reference : String}

/-! ## The registry -/

theorem rdropWhile_slashes (cs : List Char) (n : Nat) :
    (cs ++ List.replicate n '/').rdropWhile (· == '/') = cs.rdropWhile (· == '/') := by
  induction n with
  | zero => rw [List.replicate_zero, List.append_nil]
  | succ n ih =>
    rw [List.replicate_succ', ← List.append_assoc, List.rdropWhile_concat_pos _ _ _ rfl, ih]

theorem isBase_iff :
    IsBase proxy base ↔ proxy.toList.rdropWhile (· == '/') = base.toList ∧ base ≠ "" := by
  constructor
  · rintro ⟨hne, hbare, n, hn⟩
    rw [hn, rdropWhile_slashes, List.rdropWhile_eq_self_iff]
    exact ⟨fun h => by simpa using hbare h, hne⟩
  · rintro ⟨hbase, hne⟩
    have hbare := List.rdropWhile_idempotent (· == '/') proxy.toList
    have hslashes : proxy.toList.rtakeWhile (· == '/') =
        List.replicate (proxy.toList.rtakeWhile (· == '/')).length '/' :=
      List.eq_replicate_of_mem fun c hc => by simpa using List.mem_rtakeWhile_imp hc
    rw [hbase, List.rdropWhile_eq_self_iff] at hbare
    refine ⟨hne, fun h => by simpa using hbare h, (proxy.toList.rtakeWhile (· == '/')).length, ?_⟩
    rw [← hbase, ← hslashes, List.rdropWhile_append_rtakeWhile]

/-- Further slashes at the end of a registry make no difference. -/
theorem isBase_append (n : Nat) :
    IsBase (proxy ++ String.ofList (List.replicate n '/')) base ↔ IsBase proxy base := by
  rw [isBase_iff, isBase_iff, String.toList_append, String.toList_ofList, rdropWhile_slashes]

theorem proxied_eq_some_iff {image : String} :
    proxied options.registryProxy reference = some image ↔
      ∃ base, options.Behind base ∧ base ++ "/" ++ reference = image := by
  unfold CheckOptions.Behind
  cases options.registryProxy with
  | none => simp [proxied]
  | some proxy =>
    have hproxied : proxied (some proxy) reference =
        if (proxy.toList.rdropWhile (· == '/')).isEmpty then none
        else some (String.ofList (proxy.toList.rdropWhile (· == '/')) ++ "/" ++ reference) := rfl
    rw [hproxied]
    constructor
    · intro h
      split at h
      · cases h
      · rename_i hne
        refine ⟨_, ⟨proxy, rfl, isBase_iff.mpr ⟨String.toList_ofList.symm, ?_⟩⟩, Option.some.inj h⟩
        intro hempty
        exact hne (List.isEmpty_iff.mpr (by simpa using congrArg String.toList hempty))
    · rintro ⟨base, ⟨_, ⟨⟩, hbase⟩, rfl⟩
      obtain ⟨hbase, hne⟩ := isBase_iff.mp hbase
      rw [hbase, if_neg (by simpa using hne), String.ofList_toList]

/-! ## The judgement -/

theorem isDeployed_iff {i : Image} :
    isDeployed options images i = true ↔ Deployed options images i.reference := by
  simp only [isDeployed, List.any_eq_true, Bool.or_eq_true, beq_iff_eq, proxied_eq_some_iff]
  constructor
  · rintro ⟨d, hd, rfl | ⟨base, hbase, rfl⟩⟩
    · exact .inl hd
    · exact .inr ⟨base, hbase, hd⟩
  · rintro (h | ⟨base, hbase, h⟩)
    · exact ⟨_, h, .inl rfl⟩
    · exact ⟨_, h, .inr ⟨base, hbase, rfl⟩⟩

theorem missingImages_iff :
    missingImages options expected images = [] ↔ Available options expected images := by
  simp only [missingImages, List.filter_eq_nil_iff, Bool.not_eq_true', Bool.not_eq_false,
    isDeployed_iff, Available]

theorem judge_of_classified {v : Verdict} (h : Classified options expected baseline o v) :
    judge options expected baseline o = v := by
  cases h with
  | notAvailable h => simp [judge, missingImages_iff, h]
  | notSynced h hsync => simp [judge, missingImages_iff.mpr h, hsync]
  | deployed h hsync hhealth =>
    obtain hhealth | ⟨hhealth, haccept⟩ := hhealth
    · simp [judge, missingImages_iff.mpr h, hsync, hhealth]
    · simp [judge, missingImages_iff.mpr h, hsync, hhealth, haccept]
  | degradedUnchanged h hsync hhealth hsame =>
    simp [judge, missingImages_iff.mpr h, hsync, hhealth, hsame]
  | regressed h hsync hhealth hchanged =>
    simp [judge, missingImages_iff.mpr h, hsync, hhealth, hchanged]
  | notHealthy h hsync hhealth hdegraded =>
    rw [CountsAsHealthy, not_or] at hhealth
    simp [judge, missingImages_iff.mpr h, hsync, hhealth, hdegraded]

theorem exists_classified (options : CheckOptions) (expected : List Image) (baseline : String)
    (o : Observation) : ∃ v, Classified options expected baseline o v := by
  by_cases h : Available options expected o.images
  swap
  · exact ⟨_, .notAvailable h⟩
  by_cases hsync : o.sync = "Synced"
  swap
  · exact ⟨_, .notSynced h hsync⟩
  by_cases hhealth : CountsAsHealthy options o.health
  · exact ⟨_, .deployed h hsync hhealth⟩
  by_cases hdegraded : o.health = "Degraded"
  swap
  · exact ⟨_, .notHealthy h hsync hhealth hdegraded⟩
  by_cases hsame : fingerprint o.images = baseline
  · exact ⟨_, .degradedUnchanged h hsync hdegraded hsame⟩
  · exact ⟨_, .regressed h hsync hdegraded hsame⟩

/-- **The judgement is the classification.** -/
theorem judge_iff {v : Verdict} :
    judge options expected baseline o = v ↔ Classified options expected baseline o v := by
  refine ⟨?_, judge_of_classified⟩
  rintro rfl
  obtain ⟨v, hv⟩ := exists_classified options expected baseline o
  rwa [judge_of_classified hv]

theorem judge_regressed_iff : judge options expected baseline o = .regressed ↔
    Available options expected o.images ∧ o.sync = "Synced" ∧ o.health = "Degraded" ∧
      fingerprint o.images ≠ baseline := by
  rw [judge_iff]
  constructor
  · rintro (_ | _)
    exact ⟨‹_›, ‹_›, ‹_›, ‹_›⟩
  · rintro ⟨havailable, hsync, hhealth, hchanged⟩
    exact .regressed havailable hsync hhealth hchanged

theorem judge_degraded (havailable : Available options expected o.images)
    (hsync : o.sync = "Synced") (hhealth : o.health = "Degraded") :
    judge options expected baseline o =
      if fingerprint o.images = baseline then .pending .degradedUnchanged else .regressed := by
  rw [judge_iff]
  split
  · exact .degradedUnchanged havailable hsync hhealth ‹_›
  · exact .regressed havailable hsync hhealth ‹_›

/-! ## What makes no difference -/

theorem preimage_perm {images images' : List String} (h : images.Perm images') :
    preimage images = preimage images' := by
  have hsorted : images.mergeSort (fun a b => a ≤ b) = images'.mergeSort (fun a b => a ≤ b) :=
    (((images.mergeSort_perm _).trans h).trans (images'.mergeSort_perm _).symm).eq_of_sortedLE
      List.sortedLE_mergeSort List.sortedLE_mergeSort
  rw [preimage, preimage, hsorted]

theorem fingerprint_perm {images images' : List String} (h : images.Perm images') :
    fingerprint images = fingerprint images' := congrArg Sha256.hex (preimage_perm h)

variable {options' : CheckOptions} {expected' : List Image} {o' : Observation}

/-- Conditions that agree give one verdict. -/
theorem judge_congr
    (havailable : Available options' expected' o'.images ↔ Available options expected o.images)
    (haccept : options'.acceptSuspended = options.acceptSuspended) (hsync : o'.sync = o.sync)
    (hhealth : o'.health = o.health) (hfingerprint : fingerprint o'.images = fingerprint o.images) :
    judge options' expected' baseline o' = judge options expected baseline o := by
  have hmissing : (missingImages options' expected' o'.images).isEmpty =
      (missingImages options expected o.images).isEmpty := by
    rw [Bool.eq_iff_iff, List.isEmpty_iff, List.isEmpty_iff, missingImages_iff, missingImages_iff,
      havailable]
  rw [judge, judge, hmissing, haccept, hsync, hhealth, hfingerprint]

/-! ## What undoes nothing -/

/-- With a registry configured and more images deployed, what was available still is. -/
theorem Available.mono {images images' : List String} (h : Available options expected images)
    (hbehind : ∀ base, options.Behind base → options'.Behind base) (himages : images ⊆ images') :
    Available options' expected images' := by
  intro i hi
  obtain hsuch | ⟨base, hbase, hproxied⟩ := h i hi
  · exact .inl (himages hsuch)
  · exact .inr ⟨base, hbehind base hbase, himages hproxied⟩

theorem judge_deployed_mono (h : judge options expected baseline o = .deployed)
    (hbehind : ∀ base, options.Behind base → options'.Behind base)
    (haccept : options.acceptSuspended = true → options'.acceptSuspended = true)
    (himages : o.images ⊆ o'.images) (hsync : o'.sync = o.sync) (hhealth : o'.health = o.health) :
    judge options' expected baseline o' = .deployed := by
  rw [judge_iff] at h ⊢
  cases h with
  | deployed havailable hsynced hhealthy =>
    have hcounts : CountsAsHealthy options' o'.health :=
      hhealth ▸ hhealthy.imp_right fun ⟨hsuspended, haccepted⟩ => ⟨hsuspended, haccept haccepted⟩
    exact .deployed (havailable.mono hbehind himages) (hsync.trans hsynced) hcounts

/-- **The judgement of an observation** is the verdict of the first condition that is not met. It does
not depend on the order of the deployed images, on the order and number of the expected ones, or on
further slashes at the end of the registry. A rollout that has converged still has with a registry where
there was none, with suspended applications accepted, and with more images deployed. -/
theorem judge_classified (options : CheckOptions) (expected : List Image) (baseline : String)
    (o : Observation) :
    (∀ v, judge options expected baseline o = v ↔ Classified options expected baseline o v) ∧
    (∀ images, images.Perm o.images →
      judge options expected baseline { o with images } = judge options expected baseline o) ∧
    (∀ expected' : List Image, (∀ i, i ∈ expected' ↔ i ∈ expected) →
      judge options expected' baseline o = judge options expected baseline o) ∧
    (∀ proxy n, options.registryProxy = some proxy →
      judge { options with registryProxy := some (proxy ++ String.ofList (List.replicate n '/')) }
        expected baseline o = judge options expected baseline o) ∧
    (judge options expected baseline o = .deployed →
      (∀ proxy, (∀ base, ¬ options.Behind base) →
        judge { options with registryProxy := some proxy } expected baseline o = .deployed) ∧
      judge { options with acceptSuspended := true } expected baseline o = .deployed ∧
      ∀ images, o.images ⊆ images →
        judge options expected baseline { o with images } = .deployed) := by
  refine ⟨fun v => judge_iff, fun images hperm => ?_, fun expected' hsame => ?_,
    fun proxy n hproxy => ?_, fun h => ⟨fun proxy hnone => ?_, ?_, fun images himages => ?_⟩⟩
  · have hmem : ∀ reference, reference ∈ images ↔ reference ∈ o.images := fun _ => hperm.mem_iff
    exact judge_congr (by simp only [Available, Deployed, hmem]) rfl rfl rfl (fingerprint_perm hperm)
  · exact judge_congr (by simp only [Available, hsame]) rfl rfl rfl rfl
  · exact judge_congr (by simp [Available, Deployed, CheckOptions.Behind, hproxy, isBase_append])
      rfl rfl rfl rfl
  · exact judge_deployed_mono h (fun base hbase => absurd hbase (hnone base)) id
      (List.Subset.refl _) rfl rfl
  · exact judge_deployed_mono h (fun _ => id) (fun _ => rfl) (List.Subset.refl _) rfl rfl
  · exact judge_deployed_mono h (fun _ => id) id himages rfl rfl

/-- An image behind a registry with a slash at its end, of an application that is suspended: deployed if
that is accepted, also with more slashes and more images. -/
theorem judge_classified_behind_registry :
    let options : CheckOptions := ⟨some "proxy.example.com/cache/", true⟩
    let expected : List Image := [⟨"repo/app", "v1"⟩]
    let o : Observation := ⟨["proxy.example.com/cache/repo/app:v1"], "Synced", "Suspended"⟩
    Classified options expected "" o .deployed ∧
      judge ⟨some "proxy.example.com/cache///", true⟩ expected "" o = .deployed ∧
      judge options expected "" { o with images := "repo/db:v2" :: o.images } = .deployed := by
  intro options expected o
  have hdeployed : judge options expected "" o = .deployed := by decide +kernel
  obtain ⟨hclassified, -, -, hslashes, hmono⟩ := judge_classified options expected "" o
  exact ⟨(hclassified _).mp hdeployed, (hslashes "proxy.example.com/cache/" 2 rfl).trans hdeployed,
    (hmono hdeployed).2.2 _ (List.subset_cons_self _ _)⟩

end DeployWatch
