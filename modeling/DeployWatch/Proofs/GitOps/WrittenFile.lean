import DeployWatch.Proofs.GitOps.FurtherKeys
import DeployWatch.Proofs.Yaml.Spelled

/-!
# Files that were written

* `writable_applyAll`: merges do not change whether a file can be written;
* `exists_shows_toValue`: the mapping of a file can be spelled out;
* **`written_file_read_back`**: whoever spells it out, the file is read from it as it was written.
-/

namespace DeployWatch

open Yaml (Value Node Document)

namespace OverrideFile

theorem writable_applyAll (f : OverrideFile) (batches : List (List Parameter)) :
    (f.applyAll batches).writable = f.writable := by
  rw [applyAll_eq]
  rfl

theorem exists_shows_toValue {f : OverrideFile} (hf : f.WellFormed) :
    ∃ doc : Document, doc.root.shows f.toValue = true := by
  obtain ⟨n, hn⟩ := Value.exists_shows (readable_toValue hf)
  exact ⟨{ root := n }, hn⟩

/-- **A file is read back as it was written.** A file that was read, with any batches of parameters merged
into it, is written as a mapping. This can be spelled out, and from every document that spells it out the
same file is read: the same parameters in the same order with the same flags, and the same further keys.
So it is with its text, which there is if no further key is in the way and the layer below can write it,
and with the file that an update leaves in a working copy. -/
theorem written_file_read_back {l : TextLayer} (hl : l.RoundTrips) {s : String} {f : OverrideFile}
    (hparse : l.parse s = some f) (batches : List (List Parameter)) :
    (∃ doc : Document, doc.root.shows (f.applyAll batches).toValue = true) ∧
    (∀ doc : Document, doc.root.shows (f.applyAll batches).toValue = true →
      ofDocument doc = some (f.applyAll batches)) ∧
    (∀ s', l.render (f.applyAll batches) = some s' → l.parse s' = some (f.applyAll batches)) ∧
    ((l.render (f.applyAll batches)).isSome ↔
      f.writable = true ∧ (l.write (f.applyAll batches).toValue).isSome) ∧
    ∀ t t' file, writeOverrides l (f.applyAll batches) t file = .ok t' →
      readOverrides l t' file = .ok (f.applyAll batches) := by
  have hwell := (wellFormed_of_parse hparse).applyAll batches
  have hback : ∀ s', l.render (f.applyAll batches) = some s' →
      l.parse s' = some (f.applyAll batches) := fun s' hs' => parse_render hl hwell hs'
  refine ⟨exists_shows_toValue hwell, fun doc hdoc => ofDocument_of_shows hwell hdoc, hback, ?_, ?_⟩
  · unfold TextLayer.render
    rw [writable_applyAll]
    cases f.writable <;> simp
  · intro t t' file hwrite
    obtain ⟨text, hrender, hread, -⟩ := writeOverrides_ok hwrite
    exact Holds.readOverrides ⟨text, hread, hback text hrender⟩

/-- A file with further keys at both levels, among them a number that is one by its tag only. -/
def taggedText : String :=
  "helm:\n  valueFiles: [prod.yaml, ~]\n  parameters:\n  - \x7bvalue: v0, name: web.image.tag\x7d\n" ++
    "weight: !!float 1\n"

theorem written_file_read_back_tagged : ∃ f s', TextLayer.checked.RoundTrips ∧
    TextLayer.checked.parse taggedText = some f ∧
    TextLayer.checked.render (f.applyAll [otherBatch, otherBatch]) = some s' ∧
    TextLayer.checked.parse s' = some (f.applyAll [otherBatch, otherBatch]) ∧
    (∃ doc : Document, doc.root.shows (f.applyAll [otherBatch, otherBatch]).toValue = true) := by
  have hrun : ((TextLayer.checked.parse taggedText).bind fun f =>
      TextLayer.checked.render (f.applyAll [otherBatch, otherBatch])).isSome = true := by decide +kernel
  obtain ⟨s', hs'⟩ := Option.isSome_iff_exists.mp hrun
  obtain ⟨f, hparse, hrender⟩ := Option.bind_eq_some_iff.mp hs'
  obtain ⟨hshown, -, hback, -, -⟩ :=
    written_file_read_back TextLayer.checked_roundTrips hparse [otherBatch, otherBatch]
  exact ⟨f, s', TextLayer.checked_roundTrips, hparse, hrender, hback s' hrender, hshown⟩

end OverrideFile

end DeployWatch
