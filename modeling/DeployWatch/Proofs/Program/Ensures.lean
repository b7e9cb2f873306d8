import DeployWatch.Proofs.Program.History

/-!
# What a program makes sure of

A part of the state that nobody else changes is watched through a view. Between two requests of a
program everything else in the state may change.

* `Program.Ensures`: whatever else happens, a program that starts from a view ends with a result, a
  history and a view of a certain kind;
* `Ensures.mono`, `Ensures.bind`: rules;
* **`Ensures.run`**: a run alone is of that kind.
-/

namespace DeployWatch.Program

variable {σ ν α β : Type} (s : Surroundings σ) (view : σ → ν)

/-- Every result, with the requests that led to it and the view that they left, satisfies `Q`. -/
def Ensures : Program α → ν → (α → List Exchange → ν → Prop) → Prop
  | done a, v, Q => Q a [] v
  | ask r next, v, Q => ∀ w, view w = v →
      (next (s.answer r w).1).Ensures (view (s.answer r w).2) fun a h v' =>
        Q a (⟨r, (s.answer r w).1⟩ :: h) v'

namespace Ensures

variable {s view} {v : ν}

theorem done {a : α} {Q : α → List Exchange → ν → Prop} (h : Q a [] v) :
    (Program.done a).Ensures s view v Q := h

/-- A request that leaves the view alone. -/
theorem ask {r : Request} {next : r.Answer → Program α} {Q : α → List Exchange → ν → Prop}
    (hquiet : ∀ w, view (s.answer r w).2 = view w)
    (h : ∀ x, (next x).Ensures s view v fun a h v' => Q a (⟨r, x⟩ :: h) v') :
    (Program.ask r next).Ensures s view v Q := by
  rintro w rfl
  rw [hquiet]
  exact h _

theorem mono {p : Program α} {Q Q' : α → List Exchange → ν → Prop} (hp : p.Ensures s view v Q)
    (h : ∀ a e v', Q a e v' → Q' a e v') : p.Ensures s view v Q' := by
  induction p generalizing v Q Q' with
  | done a => exact h _ _ _ hp
  | ask r next ih => exact fun w hw => ih _ (hp w hw) fun a e v' => h _ _ _

theorem bind {p : Program α} {f : α → Program β} {Q : α → List Exchange → ν → Prop}
    {Q' : β → List Exchange → ν → Prop} (hp : p.Ensures s view v Q)
    (hf : ∀ a e v', Q a e v' → (f a).Ensures s view v' fun b e' v'' => Q' b (e ++ e') v'') :
    (p.bind f).Ensures s view v Q' := by
  induction p generalizing v Q Q' with
  | done a => exact hf _ _ _ hp
  | ask r next ih => exact fun w hw => ih _ (hp w hw) fun a e v' => hf _ _ _

/-- **A run alone is of the kind that a program makes sure of.** -/
theorem run {p : Program α} {Q : α → List Exchange → ν → Prop} {w : σ}
    (hp : p.Ensures s view (view w) Q) :
    Q (p.run s w).1 (p.history s w) (view (p.run s w).2) := by
  induction p generalizing w Q with
  | done a => exact hp
  | ask r next ih => exact ih _ (hp w rfl)

end Ensures

end DeployWatch.Program
