import DeployWatch.Proofs.Program.History

/-!
# Programs that depend on a few answers

Some requests are heard: the answers to them may decide how a program goes on. Two programs are alike if
they ask for the same, apart from the length of delays, and are alike after equal answers to what they hear
and any answers to all else. A program that is alike to itself depends on what it hears alone.

* `Program.Alike`, `Alike.bind`, `Only.alike`;
* `Surroundings.scripted`: surroundings in which what is heard follows a script;
* **`Alike.run_eq`**: with one script, alike programs end alike and ask for the same, whoever answers all
  else.
-/

namespace DeployWatch

/-- The request without its duration. -/
def Request.untimed : Request → Request
  | .sleep _ => .sleep 0
  | r => r

/-- The same surroundings, except that what is heard is answered by a script, which goes by what it has
answered before; the second part of the state keeps that. -/
def Surroundings.scripted {σ : Type} (s : Surroundings σ) (heard : Request → Bool)
    (script : List Exchange → (r : Request) → r.Answer) : Surroundings (σ × List Exchange) where
  answer r w :=
    if heard r then (script w.2 r, (s.answer r w.1).2, w.2 ++ [⟨r, script w.2 r⟩])
    else ((s.answer r w.1).1, (s.answer r w.1).2, w.2)
  time w := s.time w.1
  atTime t w := (s.atTime t w.1, w.2)

section Scripted

variable {σ : Type} (s : Surroundings σ) {heard : Request → Bool}
  (script : List Exchange → (r : Request) → r.Answer) {r : Request} (v : σ) (told : List Exchange)

theorem scripted_of_heard (hr : heard r = true) : (s.scripted heard script).answer r (v, told) =
    (script told r, (s.answer r v).2, told ++ [⟨r, script told r⟩]) := if_pos hr

theorem scripted_of_unheard (hr : heard r = false) : (s.scripted heard script).answer r (v, told) =
    ((s.answer r v).1, (s.answer r v).2, told) := if_neg (ne_true_of_eq_false hr)

end Scripted

namespace Program

variable {α β : Type} {heard : Request → Bool}

/-- Two programs that ask for the same, apart from the length of delays, and go on alike after equal
answers to what they hear. -/
inductive Alike (heard : Request → Bool) : Program α → Program α → Prop
  | done (a : α) : Alike heard (done a) (done a)
  | hears {r : Request} {next next' : r.Answer → Program α} : heard r = true →
    (∀ x, Alike heard (next x) (next' x)) → Alike heard (ask r next) (ask r next')
  | ignores {r : Request} {next next' : r.Answer → Program α} : heard r = false →
    (∀ x x', Alike heard (next x) (next' x')) → Alike heard (ask r next) (ask r next')
  | sleeps {duration duration' : Nat} {next : (Request.sleep duration).Answer → Program α}
    {next' : (Request.sleep duration').Answer → Program α} :
    (∀ d, heard (.sleep d) = false) → Alike heard (next ()) (next' ()) →
    Alike heard (ask (.sleep duration) next) (ask (.sleep duration') next')

theorem Alike.bind {p q : Program α} {f g : α → Program β} (hpq : p.Alike heard q)
    (hfg : ∀ a, (f a).Alike heard (g a)) : (p.bind f).Alike heard (q.bind g) := by
  induction hpq with
  | done a => exact hfg a
  | hears hr _ ih => exact .hears hr ih
  | ignores hr _ ih => exact .ignores hr ih
  | sleeps hr _ ih => exact .sleeps hr ih

/-- A program that asks only for what it hears. -/
theorem Only.alike {p : Program α} (hp : p.Only (heard · = true)) : p.Alike heard p := by
  induction p with
  | done a => exact .done a
  | ask r next ih => exact .hears hp.1 fun x => ih x (hp.2 x)

/-- **What programs depend on.** Alike programs that hear the same end alike, have heard the same and have
asked for the same, apart from the length of delays, whatever all other answers were. -/
theorem Alike.run_eq {p q : Program α} (hpq : p.Alike heard q)
    (script : List Exchange → (r : Request) → r.Answer) {σ σ' : Type} (s : Surroundings σ)
    (s' : Surroundings σ') (v : σ) (v' : σ') (told : List Exchange) :
    let ended := p.run (s.scripted heard script) (v, told)
    let ended' := q.run (s'.scripted heard script) (v', told)
    ended'.1 = ended.1 ∧ ended'.2.2 = ended.2.2 ∧
      (q.requests (s'.scripted heard script) (v', told)).map Request.untimed =
        (p.requests (s.scripted heard script) (v, told)).map Request.untimed := by
  -- The states need not be related; that the two runs have heard the same is all that is carried along.
  induction hpq generalizing v v' told with
  | done a => exact ⟨rfl, rfl, rfl⟩
  | @hears r next next' hr _ ih =>
    simp only [run_ask, requests_ask, scripted_of_heard _ _ _ _ hr, List.map_cons]
    obtain ⟨hresult, htold, hrequests⟩ :=
      ih (script told r) (s.answer r v).2 (s'.answer r v').2 (told ++ [⟨r, script told r⟩])
    exact ⟨hresult, htold, congrArg _ hrequests⟩
  | @ignores r next next' hr _ ih =>
    simp only [run_ask, requests_ask, scripted_of_unheard _ _ _ _ hr, List.map_cons]
    obtain ⟨hresult, htold, hrequests⟩ :=
      ih (s.answer r v).1 (s'.answer r v').1 (s.answer r v).2 (s'.answer r v').2 told
    exact ⟨hresult, htold, congrArg _ hrequests⟩
  | @sleeps duration duration' next next' hr _ ih =>
    simp only [run_ask, requests_ask, scripted_of_unheard _ _ _ _ (hr _), List.map_cons]
    obtain ⟨hresult, htold, hrequests⟩ :=
      ih (s.answer (.sleep duration) v).2 (s'.answer (.sleep duration') v').2 told
    exact ⟨hresult, htold, congrArg _ hrequests⟩

end Program

end DeployWatch
