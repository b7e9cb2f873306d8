import DeployWatch.Proofs.Store.Jobs
import DeployWatch.Simulation.World

/-!
# The task store of a simulated world

* `World.keeps_store`: a simulated world keeps a task store;
* `World.clocked`, `World.clocked_keeps_store`: the same world with a clock that does not stand still
  while programs wait.
-/

namespace DeployWatch.Simulation

theorem StoreMode.of_writing {α : Type} {m : StoreMode} {call : Except StoreError α} {a : α}
    (h : m.writing call = .ok a) : call = .ok a := by
  cases m with
  | up => exact h
  | _ => cases h

namespace World

theorem store_of_quiet {r : Request} (hr : r.writesTasks = false) (w : World) :
    (answer r w).2.store = w.store := by
  cases r with
  | addTask _ => cases hr
  | setStatus _ _ _ => cases hr
  | sweep _ => cases hr
  | application name =>
    show ((w.log (.askedApplication name)).nextApplication name).2.store = _
    unfold nextApplication
    split <;> rfl
  | run command =>
    show (w.call command).2.store = _
    unfold call
    split <;> rfl
  | acquire key =>
    show (w.noteKey key).store = _
    unfold noteKey
    split <;> rfl
  | _ => rfl

theorem keeps_store : Keeps surroundings store where
  answers r w := by
    cases hr : r.writesTasks with
    | false =>
      show w.store.Effect _ (answer r w).2.store
      rw [store_of_quiet hr]
      exact .keep _
    | true =>
      cases r with
      | addTask s =>
        show w.store.Effect ⟨.addTask s, (w.addTask s).1⟩ (w.addTask s).2.store
        unfold addTask
        split
        · exact .keep _
        · exact .add s _ _
      | setStatus id status reason =>
        show w.store.Effect ⟨.setStatus id status reason, (w.setStatus id status reason).1⟩
          (w.setStatus id status reason).2.store
        unfold setStatus
        dsimp only
        split
        · exact .keep _
        · rename_i hwriting
          exact .set (StoreMode.of_writing hwriting)
      | sweep staleness =>
        show w.store.Effect ⟨.sweep staleness, (w.sweep staleness).1⟩ (w.sweep staleness).2.store
        unfold sweep
        dsimp only
        split
        · exact .keep _
        · rename_i hwriting
          cases StoreMode.of_writing hwriting
          exact .sweep staleness w.instant fun _ => w.instant
      | _ => cases hr
  passing _ _ := rfl

/-! ## A clock that moves -/

/-- The world with a clock that shows how much time has passed since the epoch. -/
def onTime (w : World) : World := { w with now := 1000000 * w.time }

/-- Surroundings in which the clock is set before each answer. -/
def clocked : Surroundings World where
  answer r w := answer r w.onTime
  time := World.time
  atTime t w := { w with time := t }

theorem clocked_keeps_store : Keeps clocked store where
  answers r w := keeps_store.answers r w.onTime
  passing _ _ := rfl

end World

end DeployWatch.Simulation
