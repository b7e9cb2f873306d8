import DeployWatch.Proofs.Program.History

/-!
# Paths through a program

The requests of a program, with answers to them, lead to what is left of it. Nothing is said about who
answers: what holds of all paths holds of every run, alone or among other programs.

* `Program.Leads`: a history leads from a program to another one;
* `Leads.unique`, `Leads.done_unique`: a history tells where it leads;
* **`leads_bind`**: a path through two programs, one after the other;
* `Only.leads`: paths of programs with few kinds of requests.
-/

namespace DeployWatch.Program

variable {α β : Type}

/-- A history leads from a program to what is left of it. -/
inductive Leads : Program α → List Exchange → Program α → Prop
  | here {p : Program α} : Leads p [] p
  | step {r : Request} {next : r.Answer → Program α} {x : r.Answer} {h : List Exchange}
    {q : Program α} : Leads (next x) h q → Leads (ask r next) (⟨r, x⟩ :: h) q

section Leads

variable {p q : Program α} {h : List Exchange}

/-- One more exchange. -/
theorem Leads.snoc {r : Request} {next : r.Answer → Program α} (hp : p.Leads h (ask r next))
    (x : r.Answer) : p.Leads (h ++ [⟨r, x⟩]) (next x) := by
  generalize hq : ask r next = q at hp
  induction hp with
  | here =>
    subst hq
    exact .step .here
  | step _ ih => exact .step (ih hq)

theorem leads_done {a : α} : (done a).Leads h q ↔ h = [] ∧ q = done a := by
  constructor
  · intro hp
    cases hp
    exact ⟨rfl, rfl⟩
  · rintro ⟨rfl, rfl⟩
    exact .here

theorem leads_ask {r : Request} {next : r.Answer → Program α} : (ask r next).Leads h q ↔
    h = [] ∧ q = ask r next ∨ ∃ x h', h = ⟨r, x⟩ :: h' ∧ (next x).Leads h' q := by
  constructor
  · intro hp
    cases hp with
    | here => exact .inl ⟨rfl, rfl⟩
    | step hp => exact .inr ⟨_, _, rfl, hp⟩
  · rintro (⟨rfl, rfl⟩ | ⟨x, h', rfl, hp⟩)
    · exact .here
    · exact .step hp

/-- What is left of a program is told by the history. -/
theorem Leads.unique {q' : Program α} (hp : p.Leads h q) (hp' : p.Leads h q') : q' = q := by
  induction hp with
  | here =>
    cases hp'
    rfl
  | step _ ih =>
    cases hp' with
    | step hrest => exact ih hrest

/-- A path that goes on has come somewhere before. -/
theorem Leads.of_append {h₁ h₂ : List Exchange} (hp : p.Leads (h₁ ++ h₂) q) :
    ∃ p', p.Leads h₁ p' ∧ p'.Leads h₂ q := by
  induction h₁ generalizing p with
  | nil => exact ⟨p, .here, hp⟩
  | cons e h₁ ih =>
    cases hp with
    | step hrest =>
      obtain ⟨p', hfirst, hsecond⟩ := ih hrest
      exact ⟨p', .step hfirst, hsecond⟩

/-- Where a program ends within a history, and with which result, is told by the history. -/
theorem Leads.done_unique {a a' : α} {h₁ h₁' h₂ h₂' : List Exchange} (hp : p.Leads h₁ (done a))
    (hp' : p.Leads h₁' (done a')) (heq : h₁' ++ h₂' = h₁ ++ h₂) : a' = a ∧ h₁' = h₁ ∧ h₂' = h₂ := by
  generalize hq : done a = q at hp
  induction hp generalizing h₁' with
  | here =>
    subst hq
    obtain ⟨rfl, hdone⟩ := leads_done.mp hp'
    cases hdone
    exact ⟨rfl, rfl, heq⟩
  | step _ ih =>
    cases hp' with
    | step hrest =>
      rw [List.cons_append, List.cons_append, List.cons.injEq] at heq
      obtain ⟨hsame, heq⟩ := heq
      cases hsame
      obtain ⟨ha, hfirst, hsecond⟩ := ih hrest heq hq
      exact ⟨ha, congrArg _ hfirst, hsecond⟩

/-- **A path through two programs** ends within the first one, or goes through it and on in the
second. -/
theorem leads_bind {f : α → Program β} {q : Program β} (hp : (p.bind f).Leads h q) :
    (∃ r next, p.Leads h (ask r next) ∧ q = ask r fun x => (next x).bind f) ∨
      ∃ a h₁ h₂, h = h₁ ++ h₂ ∧ p.Leads h₁ (done a) ∧ (f a).Leads h₂ q := by
  induction p generalizing h with
  | done a => exact .inr ⟨a, [], h, rfl, .here, hp⟩
  | ask r next ih =>
    rcases leads_ask.mp hp with ⟨rfl, rfl⟩ | ⟨x, h', rfl, hrest⟩
    · exact .inl ⟨r, next, .here, rfl⟩
    · rcases ih x hrest with ⟨r', next', hp', rfl⟩ | ⟨a, h₁, h₂, rfl, h₁', h₂'⟩
      · exact .inl ⟨r', next', .step hp', rfl⟩
      · exact .inr ⟨a, ⟨r, x⟩ :: h₁, h₂, rfl, .step h₁', h₂'⟩

/-- What is left once the first of two programs has ended. -/
theorem Leads.bind_rest {f : α → Program β} {q : Program β} {a : α} {h₁ h₂ : List Exchange}
    (hp : (p.bind f).Leads (h₁ ++ h₂) q) (hfirst : p.Leads h₁ (done a)) : (f a).Leads h₂ q := by
  generalize hr : done a = r at hfirst
  induction hfirst with
  | here =>
    subst hr
    exact hp
  | step _ ih =>
    cases hp with
    | step hrest => exact ih hrest hr

/-- A program that only turns its result into another one goes along the same path. -/
theorem Leads.of_bind_done {f : α → β} {q : Program β}
    (hp : (p.bind fun a => done (f a)).Leads h q) : ∃ q', p.Leads h q' := by
  rcases leads_bind hp with ⟨_, _, hfirst, -⟩ | ⟨_, h₁, h₂, rfl, hfirst, hend⟩
  · exact ⟨_, hfirst⟩
  · obtain ⟨rfl, -⟩ := leads_done.mp hend
    rw [List.append_nil]
    exact ⟨_, hfirst⟩

theorem Only.leads {P : Request → Prop} (hp : p.Only P) (hq : p.Leads h q) :
    ∀ e ∈ h, P e.request := by
  induction hq with
  | here => exact fun e he => absurd he List.not_mem_nil
  | step _ ih =>
    intro e he
    rcases List.mem_cons.mp he with rfl | he
    · exact hp.1
    · exact ih (hp.2 _) e he

end Leads

end DeployWatch.Program
