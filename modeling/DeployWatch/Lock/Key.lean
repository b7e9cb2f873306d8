import DeployWatch.Hash.Sha256

/-!
# Lock keys

* `lockId`: the number that stands for a key among all instances.
-/

namespace DeployWatch

/-- The number of a key: the first eight bytes of its digest, the highest first, as a word with sign. -/
def lockId (key : String) : Int64 :=
  Int64.ofNat (((Sha256.digest key.toUTF8.toList).take 8).foldl (fun n b => n * 256 + b.toNat) 0)

end DeployWatch
