import DeployWatch.Proofs.Program.Paths
import DeployWatch.Proofs.Program.Turns

/-!
# Interleavings with their answers

A log of a crew says who has asked for what, but not what the answers were. Here the answers are kept.

* `Crew.Unfolds`: the exchanges and crews that some interleaving leads to;
* `Crew.own`: the exchanges of one program;
* `Floor.Moves`, `Floor.Step.moves`: what a step of a floor does to programs and state;
* `Unfolds.invariant`: what all steps keep;
* **`Unfolds.leads`**: each program goes along a path of its own;
* `Crew.exchanges`, `run_unfolds`: the run of a crew is one of its interleavings.
-/

namespace DeployWatch

open Program (ask done Leads)

/-- What is left of a program. -/
def Post.rest? {α : Type} : Post α → Option (Program α)
  | absent => none
  | ready p => some p
  | asleep _ p => some p
  | queued _ p => some p
  | ended a => some (done a)

@[simp] theorem Post.rest?_wake {α : Type} (due : Nat) (p : Post α) :
    (p.wake due).rest? = p.rest? := by
  cases p with
  | asleep d p =>
    show Post.rest? (if d = due then .ready p else .asleep d p) = some p
    split <;> rfl
  | _ => rfl

namespace Crew

variable {σ α : Type}

/-! ## Histories -/

/-- The exchanges of one program. -/
def own (n : Nat) (H : List (Nat × Exchange)) : List Exchange :=
  (H.filter fun e => e.1 = n).map (·.2)

section Own

variable {n : Nat} {H : List (Nat × Exchange)} {e : Exchange}

@[simp] theorem own_append (H' : List (Nat × Exchange)) :
    own n (H ++ H') = own n H ++ own n H' := by
  simp [own]

theorem own_single : own n [(n, e)] = [e] := by
  simp [own]

theorem own_single_of_ne {i : Nat} (hi : i ≠ n) : own i [(n, e)] = [] := by
  simp [own, Ne.symm hi]

theorem mem_own : e ∈ own n H ↔ (n, e) ∈ H := by
  simp [own]

end Own

variable (s : Surroundings σ)

/-- The exchanges among events that come about in a state. -/
def exchangesIn (w : σ) (events : List (CrewEvent α)) : List (Nat × Exchange) :=
  events.filterMap fun
    | .asked n r => some (n, ⟨r, (s.answer r w).1⟩)
    | _ => none

/-- The exchanges and crews that some interleaving leads to from a crew. Any ready program may take the
next turn, and time may pass at any moment. -/
inductive Unfolds (start : Crew σ α) : List (Nat × Exchange) → Crew σ α → Prop
  | start : Unfolds start [] start
  | turn {H : List (Nat × Exchange)} {c : Crew σ α} {m : Member α} {others : List (Member α)} :
    Unfolds start H c → c.ready.Perm (m :: others) →
    Unfolds start (H ++ exchangesIn s c.state (happens { c with ready := m :: others }))
      ({ c with ready := m :: others }.turn s)
  | wake {H : List (Nat × Exchange)} {c : Crew σ α} :
    Unfolds start H c → Unfolds start H (c.wake s)

theorem Unfolds.trans {start c c' : Crew σ α} {H H' : List (Nat × Exchange)}
    (h : Unfolds s start H c) (h' : Unfolds s c H' c') : Unfolds s start (H ++ H') c' := by
  induction h' with
  | start => rwa [List.append_nil]
  | turn _ hperm ih =>
    rw [← List.append_assoc]
    exact ih.turn hperm
  | wake _ ih => exact ih.wake

/-- The exchanges in the run of a crew. -/
def exchanges : Nat → Crew σ α → List (Nat × Exchange)
  | 0, _ => []
  | fuel + 1, c =>
    if c.isOver then []
    else if c.ready.isEmpty then exchanges fuel (c.wake s)
    else exchangesIn s c.state (happens c) ++ exchanges fuel (c.turn s)

/-- The run of a crew is one of its interleavings. -/
theorem run_unfolds (c : Crew σ α) (fuel : Nat) :
    Unfolds s c (c.exchanges s fuel) (c.run s fuel) := by
  induction fuel generalizing c with
  | zero => exact .start
  | succ fuel ih =>
    unfold exchanges run
    split
    · exact .start
    · cases hready : c.ready with
      | nil => exact Unfolds.start.wake.trans s (ih _)
      | cons m others =>
        have hturn := Unfolds.start (s := s) |>.turn (List.Perm.of_eq hready)
        rw [← hready] at hturn
        exact hturn.trans s (ih _)

end Crew

/-! ## Moves -/

namespace Floor

variable {σ α : Type} (s : Surroundings σ)

/-- A state, possibly at a later time. -/
def Passes (w w' : σ) : Prop := w' = w ∨ ∃ time, w' = s.atTime time w

/-- What a step of a floor does to programs and state, with the exchanges in it. -/
inductive Moves (F F' : Floor σ α) : List (Nat × Exchange) → Prop
  /-- No program asks. -/
  | quiet : (∀ i, (F'.post i).rest? = (F.post i).rest?) → Passes s F.state F'.state → Moves F F' []
  /-- One program asks and goes on with the answer. -/
  | asks {n : Nat} {r : Request} {next : r.Answer → Program α} :
    F.post n = .ready (.ask r next) → (F'.post n).rest? = some (next (s.answer r F.state).1) →
    (∀ i, i ≠ n → (F'.post i).rest? = (F.post i).rest?) →
    Passes s (s.answer r F.state).2 F'.state → Moves F F' [(n, ⟨r, (s.answer r F.state).1⟩)]

variable {s} {F F' : Floor σ α}

theorem Step.moves {eager : Prop} {events : List (CrewEvent α)} (h : F.Step s eager events F') :
    F.Moves s F' (Crew.exchangesIn s F.state events) := by
  cases h with
  | @finish n a hpost =>
    refine .quiet (fun i => ?_) (.inl rfl)
    by_cases hi : i = n
    · rw [post_put, if_pos hi, hi, hpost]
      rfl
    · rw [post_put, if_neg hi]
  | wake _ _ _ => exact .quiet (fun i => Post.rest?_wake _ _) (.inr ⟨_, rfl⟩)
  | @enter n key next hpost _ =>
    refine .asks hpost ?_ (fun i hi => by simp [hi]) (.inl rfl)
    rw [post_line, post_put, if_pos rfl]
    rfl
  | @wait n key next q hpost _ =>
    refine .asks hpost ?_ (fun i hi => by simp [hi]) (.inl rfl)
    rw [post_line, post_put, if_pos rfl]
    rfl
  | @handOver n first key next q p hpost _ hfirst =>
    have hne : n ≠ first := by
      rintro rfl
      rw [hpost] at hfirst
      cases hfirst
    refine .asks hpost ?_ (fun i hi => ?_) (.inl rfl)
    · rw [post_line, post_put, if_neg hne, post_put, if_pos rfl]
      rfl
    · by_cases hi' : i = first
      · simp [hi', hfirst, Post.rest?]
      · simp [hi, hi']
  | @letGo n key next hpost _ =>
    refine .asks hpost ?_ (fun i hi => by simp [hi]) (.inl rfl)
    rw [post_line, post_put, if_pos rfl]
    rfl
  | @goOn n r next hpost _ _ =>
    exact .asks hpost (by simp [Post.rest?]) (fun i hi => by simp [hi]) (.inl rfl)
  | @sleep n r next hpost _ _ =>
    exact .asks hpost (by simp [Post.rest?]) (fun i hi => by simp [hi]) (.inr ⟨_, rfl⟩)

end Floor

/-! ## Interleavings -/

namespace Crew

variable {σ α : Type} {s : Surroundings σ} {start c : Crew σ α} {H : List (Nat × Exchange)}

/-- **What all moves keep holds in every interleaving.** -/
theorem Unfolds.invariant {I : List (Nat × Exchange) → Floor σ α → Prop} (htidy : start.Tidy)
    (hstart : I [] start.floor)
    (hmoves : ∀ H F es F', I H F → Floor.Moves s F F' es → I (H ++ es) F')
    (h : Unfolds s start H c) : c.Tidy ∧ I H c.floor := by
  induction h with
  | start => exact ⟨htidy, hstart⟩
  | turn _ hperm ih =>
    obtain ⟨hc, hI⟩ := ih
    obtain ⟨hturn, hstep⟩ := hc.turn_of_perm (s := s) hperm False
    exact ⟨hturn, hmoves _ _ _ _ hI hstep.moves⟩
  | @wake _ c _ ih =>
    obtain ⟨hc, hI⟩ := ih
    have hlazy : False → c.ready = [] := False.elim
    rcases hc.wake hlazy with hsame | ⟨hwake, hstep⟩
    · rw [hsame]
      exact ⟨hc, hI⟩
    · have hkept := hmoves _ _ _ _ hI hstep.moves
      rw [exchangesIn, List.filterMap_nil, List.append_nil] at hkept
      exact ⟨hwake, hkept⟩

theorem Unfolds.tidy (h : Unfolds s start H c) (htidy : start.Tidy) : c.Tidy :=
  (h.invariant (I := fun _ _ => True) htidy trivial fun _ _ _ _ _ _ => trivial).1

/-- How far the program of a number has come: nowhere if there is none. -/
def Arrives (programs : List (Program α)) (i : Nat) (h : List Exchange) :
    Option (Program α) → Prop
  | none => programs[i]? = none ∧ h = []
  | some q => ∃ p, programs[i]? = some p ∧ p.Leads h q

/-- **Each program goes along a path of its own.** -/
theorem Unfolds.leads {programs : List (Program α)} {w : σ}
    (h : Unfolds s (.ofPrograms programs w) H c) (i : Nat) :
    Arrives programs i (own i H) (c.floor.post i).rest? := by
  revert i
  refine (h.invariant (I := fun H F => ∀ i, Arrives programs i (own i H) (F.post i).rest?)
    (tidy_ofPrograms programs w) (fun i => ?_) fun H F es F' hI hmoves i => ?_).2
  · rw [post_ofPrograms]
    cases hp : programs[i]? with
    | none => exact ⟨hp, rfl⟩
    | some p => exact ⟨p, hp, .here⟩
  · cases hmoves with
    | quiet hrest _ =>
      rw [List.append_nil, hrest]
      exact hI i
    | @asks n r next hpost hnext hothers _ =>
      by_cases hi : i = n
      · subst hi
        have hbefore := hI i
        rw [hpost] at hbefore
        obtain ⟨p, hp, hleads⟩ := hbefore
        rw [hnext, own_append, own_single]
        exact ⟨p, hp, hleads.snoc _⟩
      · rw [hothers i hi, own_append, own_single_of_ne hi, List.append_nil]
        exact hI i

/-- The exchanges of a program are a path of it. -/
theorem Unfolds.path_of_mem {programs : List (Program α)} {w : σ}
    (h : Unfolds s (.ofPrograms programs w) H c) {n : Nat} {e : Exchange} (he : (n, e) ∈ H) :
    ∃ p q, programs[n]? = some p ∧ p.Leads (own n H) q := by
  have harrives := h.leads n
  cases hrest : (c.floor.post n).rest? with
  | none =>
    rw [hrest] at harrives
    rw [← mem_own, harrives.2] at he
    cases he
  | some q =>
    rw [hrest] at harrives
    obtain ⟨p, hp, hleads⟩ := harrives
    exact ⟨p, q, hp, hleads⟩

end Crew

end DeployWatch
