import DeployWatch.Proofs.Program.Locks
import Mathlib.Algebra.BigOperators.Group.Finset.Piecewise
import Mathlib.Algebra.Order.BigOperators.Group.Finset

/-!
# How a crew ends

* `Crew.endings`, **`Reaches.ended_eq`**: the results that a log tells are those of the crew, in their
  order;
* `length_eq_sum`, `length_le_of_eventsOf`: a log is no longer than what comes about with each program;
* `happens_ne_nil`, **`run_isOver_of_bounded`**: a crew ends if its logs are bounded.
-/

namespace DeployWatch

/-- The result that a program has ended with, with its number. -/
def CrewEvent.ending? {α : Type} : CrewEvent α → Option (Nat × α)
  | ended n a => some (n, a)
  | _ => none

namespace Crew

variable {σ α : Type}

/-! ## Results -/

/-- The results that a log tells. -/
def endings (log : List (CrewEvent α)) : List (Nat × α) := log.filterMap CrewEvent.ending?

@[simp] theorem endings_append (log log' : List (CrewEvent α)) :
    endings (log ++ log') = endings log ++ endings log' := List.filterMap_append

section Turn

variable {s : Surroundings σ} {c : Crew σ α}

theorem ended_acquire (key : String) (m : Member α) (others : List (Member α)) :
    (c.acquire key m others).ended = c.ended := by
  unfold acquire
  split <;> rfl

theorem ended_release (key : String) (m : Member α) (others : List (Member α)) :
    (c.release key m others).ended = c.ended := by
  unfold release
  split <;> rfl

theorem ended_goOn (w : σ) (m : Member α) (others : List (Member α)) :
    (goOn s c w m others).ended = c.ended := by
  unfold goOn
  dsimp only
  split <;> rfl

theorem ended_wake : (c.wake s).ended = c.ended := by
  unfold wake
  split <;> rfl

/-- A turn adds the results that it brings about. -/
theorem ended_turn : (c.turn s).ended = c.ended ++ endings c.happens := by
  unfold turn happens
  cases c.ready with
  | nil => simp [endings]
  | cons m others =>
    obtain ⟨n, p⟩ := m
    cases p with
    | done a => rfl
    | ask r next =>
      cases r with
      | acquire key =>
        dsimp only
        rw [ended_acquire]
        split <;> simp [endings, CrewEvent.ending?]
      | release key =>
        dsimp only [passesOn]
        rw [ended_release]
        split <;> simp [endings, CrewEvent.ending?]
      | _ =>
        dsimp only
        rw [ended_goOn]
        simp [endings, CrewEvent.ending?]

end Turn

variable {s : Surroundings σ} {eager : Prop} {start c : Crew σ α} {log : List (CrewEvent α)}

/-- **Results come in the order of the log.** -/
theorem Reaches.ended_eq (h : Reaches s eager start log c) : c.ended = start.ended ++ endings log := by
  induction h with
  | start => simp [endings]
  | turn _ _ ih => rw [ended_turn, endings_append, ih, List.append_assoc]
  | wake _ _ ih => rw [ended_wake, ih]

/-! ## The length of a log -/

theorem length_eq_sum {n : Nat} (h : ∀ e ∈ log, e.number < n) :
    log.length = ∑ i ∈ Finset.range n, (eventsOf i log).length := by
  induction log with
  | nil => simp [eventsOf]
  | cons e log ih =>
    have hcons : ∀ i, (eventsOf i (e :: log)).length =
        (if e.number = i then 1 else 0) + (eventsOf i log).length := by
      intro i
      unfold eventsOf
      by_cases hi : e.number = i
      · simp [hi, Nat.add_comm]
      · simp [hi]
    have hrest := ih fun e' he' => h e' (List.mem_cons_of_mem _ he')
    have he : e.number ∈ Finset.range n := Finset.mem_range.mpr (h e List.mem_cons_self)
    simp only [hcons]
    rw [Finset.sum_add_distrib, ← hrest, Finset.sum_ite_eq, if_pos he, List.length_cons, Nat.add_comm]

/-- A log is short if little comes about with each of a few programs. -/
theorem length_le_of_eventsOf {n k : Nat} (h : ∀ i, n ≤ i → eventsOf i log = [])
    (hk : ∀ i < n, (eventsOf i log).length ≤ k) : log.length ≤ k * n := by
  have hnumbers : ∀ e ∈ log, e.number < n := by
    intro e he
    refine Nat.lt_of_not_le fun hn => ?_
    have hmem : e ∈ eventsOf e.number log := List.mem_filter.mpr ⟨he, by simp⟩
    rw [h _ hn] at hmem
    cases hmem
  calc log.length = ∑ i ∈ Finset.range n, (eventsOf i log).length := length_eq_sum hnumbers
    _ ≤ ∑ _i ∈ Finset.range n, k := Finset.sum_le_sum fun i hi => hk i (Finset.mem_range.mp hi)
    _ = k * n := by simp [Nat.mul_comm]

/-! ## The end of a run -/

/-- A turn brings something about, if any program is ready. -/
theorem happens_ne_nil (h : c.ready ≠ []) : c.happens ≠ [] := by
  unfold happens
  cases hready : c.ready with
  | nil => exact absurd hready h
  | cons m others =>
    obtain ⟨n, p⟩ := m
    cases p <;> simp

/-- Whoever is next wakes. -/
theorem ready_wake_ne_nil (h : c.asleep ≠ []) : (c.wake s).ready ≠ [] := by
  unfold wake
  cases hasleep : c.asleep with
  | nil => exact absurd hasleep h
  | cons e es => simp

theorem run_of_ready {fuel : Nat} (h : c.ready ≠ []) : c.run s (fuel + 1) = (c.turn s).run s fuel := by
  have hover : c.isOver = false := by simp [isOver, h]
  rw [run, hover]
  simp [h]

theorem run_of_asleep {fuel : Nat} (hready : c.ready = []) (h : c.asleep ≠ []) :
    c.run s (fuel + 1) = (c.wake s).run s fuel := by
  have hover : c.isOver = false := by simp [isOver, h]
  rw [run, hover]
  simp [hready]

/-- **A crew ends if its logs are bounded.** -/
theorem run_isOver_of_bounded {bound : Nat}
    (hbound : ∀ log c, Reaches s True start log c → log.length ≤ bound) :
    ∃ fuel, (start.run s fuel).isOver = true := by
  -- Each turn makes the log longer, and a turn follows each waking.
  have hends : ∀ k log c, Reaches s True start log c → bound - log.length < k →
      ∃ fuel, (c.run s fuel).isOver = true := by
    intro k
    induction k with
    | zero => exact fun log c _ hlt => absurd hlt (Nat.not_lt_zero _)
    | succ k ih =>
      have hturn : ∀ log c, Reaches s True start log c → c.ready ≠ [] → bound - log.length < k + 1 →
          ∃ fuel, (c.run s fuel).isOver = true := by
        intro log c h hready hlt
        obtain ⟨m, others, hcons⟩ := List.exists_cons_of_ne_nil hready
        have hafter : Reaches s True start (log ++ c.happens) (c.turn s) := by
          have hreaches := h.turn (List.Perm.of_eq hcons)
          rwa [← hcons] at hreaches
        have hle := hbound _ _ hafter
        have hpos := List.length_pos_iff.mpr (happens_ne_nil hready)
        obtain ⟨fuel, hfuel⟩ := ih _ _ hafter (by rw [List.length_append] at hle ⊢; omega)
        exact ⟨fuel + 1, by rwa [run_of_ready hready]⟩
      intro log c h hlt
      by_cases hready : c.ready = []
      · by_cases hasleep : c.asleep = []
        · exact ⟨0, by simp [run, isOver, hready, hasleep]⟩
        · obtain ⟨fuel, hfuel⟩ := hturn log _ (h.wake fun _ => hready) (ready_wake_ne_nil hasleep) hlt
          exact ⟨fuel + 1, by rwa [run_of_asleep hready hasleep]⟩
      · exact hturn log c h hready hlt
  exact hends _ _ _ .start (Nat.lt_succ_self _)

end Crew

end DeployWatch
