import DeployWatch.Application.Basic
import DeployWatch.Hash.Sha256
import DeployWatch.Task.Basic

/-!
# Judging one observation

* `fingerprint`: stands for a set of deployed images, whatever their order;
* `Verdict`, `judge`: whether a rollout has converged, has to be looked at again, or has gone wrong.
-/

namespace DeployWatch

/-- What a judgement depends on besides the observation. -/
structure CheckOptions where
  /-- A registry behind which images may be deployed. -/
  registryProxy : Option String := none
  /-- Whether suspended applications count as healthy. -/
  acceptSuspended : Bool := false
  deriving DecidableEq, Repr, Inhabited

/-- The parts of a snapshot that are judged. -/
structure Observation where
  images : List String
  sync : String
  health : String
  deriving DecidableEq, Repr, Inhabited

def Application.observation (a : Application) : Observation :=
  ⟨a.images, a.syncStatus, a.healthStatus⟩

/-- Why a rollout has not converged. -/
inductive Pending where
  /-- An expected image is not deployed. -/
  | notAvailable
  | notSynced
  /-- Degraded, with the images that were deployed at the start. -/
  | degradedUnchanged
  | notHealthy
  deriving DecidableEq, Repr, Inhabited

/-- The judgement of one observation. -/
inductive Verdict where
  | deployed
  | pending (why : Pending)
  /-- Degraded with other images than at the start. -/
  | regressed
  deriving DecidableEq, Repr, Inhabited

/-- Whether looking again cannot change the outcome. -/
def Verdict.isFinal : Verdict → Bool
  | pending _ => false
  | _ => true

/-! ## Fingerprints -/

/-- The images in order, with commas between them. -/
def preimage (images : List String) : String :=
  ",".intercalate (images.mergeSort fun a b => a ≤ b)

def fingerprint (images : List String) : String := Sha256.hex (preimage images)

/-! ## Images -/

/-- The reference of an image behind a registry; slashes at the end of the registry do not count, and a
registry of slashes alone is none. -/
def proxied (proxy : Option String) (reference : String) : Option String :=
  match proxy with
  | none => none
  | some p =>
    let base := (p.toList.reverse.dropWhile (· == '/')).reverse
    if base.isEmpty then none else some (String.ofList base ++ "/" ++ reference)

/-- Whether an image is deployed, as such or behind the registry. -/
def isDeployed (options : CheckOptions) (deployed : List String) (i : Image) : Bool :=
  deployed.any fun d => d == i.reference || proxied options.registryProxy i.reference == some d

def missingImages (options : CheckOptions) (expected : List Image) (deployed : List String) :
    List Image :=
  expected.filter fun i => !isDeployed options deployed i

/-! ## The judgement -/

/-- Judges an observation against the expected images. The fingerprint taken at the start tells a
degraded application that was so before from one that the rollout degraded. -/
def judge (options : CheckOptions) (expected : List Image) (baseline : String) (o : Observation) :
    Verdict :=
  if !(missingImages options expected o.images).isEmpty then .pending .notAvailable
  else if o.sync ≠ "Synced" then .pending .notSynced
  else if o.health = "Healthy" then .deployed
  else if o.health = "Suspended" ∧ options.acceptSuspended then .deployed
  else if o.health = "Degraded" then
    (if fingerprint o.images = baseline then .pending .degradedUnchanged else .regressed)
  else .pending .notHealthy

end DeployWatch
