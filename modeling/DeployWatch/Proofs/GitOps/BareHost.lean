import DeployWatch.Proofs.GitOps.Commit
import DeployWatch.Simulation.World

/-!
# A host that takes every push

* `TextLayer.checked`, `TextLayer.checked_roundTrips`: block style, written only where it reads back;
* `Bare`, `bareHost`, `bareHost_hosting`: a branch that becomes the copy that is pushed, after some pushes
  have been refused.
-/

namespace DeployWatch

theorem eq_ok_of_toOption {ε α : Type} {x : Except ε α} {a : α} (h : x.toOption = some a) :
    x = .ok a := by
  cases x with
  | error e => cases h
  | ok b => exact congrArg _ (Option.some.inj h)

/-- Values in block style, if their texts spell them out when they are read again. -/
def TextLayer.checked : TextLayer where
  read := TextLayer.block.read
  write v := (TextLayer.block.write v).filter fun s =>
    !Text.isBlankText s && (TextLayer.block.read s).any fun doc => doc.root.shows v

theorem TextLayer.checked_roundTrips : TextLayer.checked.RoundTrips where
  reads v s _ _ h := by
    simp only [checked, Option.filter_eq_some_iff, Bool.and_eq_true, Option.any_eq_true] at h
    exact h.2.2
  notBlank v s h := by
    simp only [checked, Option.filter_eq_some_iff, Bool.and_eq_true, Bool.not_eq_true'] at h
    exact h.2.1

/-- A branch and the number of pushes that are still refused. -/
structure Bare where
  tree : FileTree := {}
  refusals : Nat := 0

/-- A host for one branch. -/
def bareHost : Surroundings Bare where
  answer r w :=
    match r with
    | .checkout _ => (.ok ⟨"", w.tree⟩, w)
    | .push copy _ _ _ =>
      if w.refusals = 0 then (.ok (), { w with tree := copy.files })
      else (.error (.git "rejected"), { w with refusals := w.refusals - 1 })
    | r => ((Simulation.World.answer r { now := 0 }).1, w)
  time _ := 0
  atTime _ w := w

theorem bareHost_hosting (r : Repository) : Hosting bareHost r Bare.tree where
  copied w copy h := by
    cases h
    rfl
  quiet q w hq := by
    cases q <;> first | rfl | exact absurd hq Bool.noConfusion
  refused copy file message w e h := by
    simp only [bareHost] at h ⊢
    split at h
    · cases h
    · rename_i hrefusals
      rw [if_neg hrefusals]
  taken copy file message w h := by
    simp only [bareHost] at h ⊢
    split at h
    · rename_i hrefusals
      rw [if_pos hrefusals]
      exact ⟨fun text htext => htext, fun p => .inr rfl⟩
    · cases h
  passing time w := rfl

end DeployWatch
