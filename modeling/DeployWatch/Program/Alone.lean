import DeployWatch.Program

/-!
# Running a program alone

* `Surroundings`: who answers requests, with a state of its own and a clock in milliseconds;
* `Program.run`: runs a program from a state to its result and the state then.
-/

namespace DeployWatch

/-- Answers to requests, with a state that they change. -/
structure Surroundings (σ : Type) where
  answer : (r : Request) → σ → r.Answer × σ
  /-- The milliseconds that have passed. -/
  time : σ → Nat
  /-- The state at another number of milliseconds. -/
  atTime : Nat → σ → σ

namespace Program

variable {σ α β : Type}

/-- Runs a program; every request is answered in the state that the one before left. -/
def run (s : Surroundings σ) : Program α → σ → α × σ
  | done a, w => (a, w)
  | ask r next, w =>
    let (x, w) := s.answer r w
    (next x).run s w

theorem run_bind (s : Surroundings σ) (p : Program α) (f : α → Program β) (w : σ) :
    (p.bind f).run s w = (f (p.run s w).1).run s (p.run s w).2 := by
  induction p generalizing w with
  | done a => rfl
  | ask r next ih => exact ih _ _

end Program

end DeployWatch
