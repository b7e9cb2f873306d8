import DeployWatch.Program.Alone

/-!
# What a program asks for

* `Program.bind_assoc` and the equations of the monad;
* `Exchange`, `Program.history`, `Program.requests`: the requests of a run alone with their answers;
* **`Program.Only.history`**, `Program.Only.run_eq`: what the requests of a program say about its runs.
-/

namespace DeployWatch

/-- A request with its answer. -/
structure Exchange where
  request : Request
  answer : request.Answer

namespace Program

variable {σ α β γ : Type}

/-! ## The monad -/

@[simp] theorem pure_eq (a : α) : (pure a : Program α) = done a := rfl

@[simp] theorem bind_eq (p : Program α) (f : α → Program β) : p >>= f = p.bind f := rfl

@[simp] theorem done_bind (a : α) (f : α → Program β) : (done a).bind f = f a := rfl

@[simp] theorem ask_bind (r : Request) (next : r.Answer → Program α) (f : α → Program β) :
    (ask r next).bind f = ask r fun x => (next x).bind f := rfl

@[simp] theorem request_bind (r : Request) (f : r.Answer → Program β) :
    (request r).bind f = ask r f := rfl

theorem bind_assoc (p : Program α) (f : α → Program β) (g : β → Program γ) :
    (p.bind f).bind g = p.bind fun a => (f a).bind g := by
  induction p with
  | done a => rfl
  | ask r next ih =>
    simp only [ask_bind]
    congr 1
    funext x
    exact ih x

/-! ## Histories -/

variable (s : Surroundings σ)

/-- The requests of a run with their answers. -/
def history : Program α → σ → List Exchange
  | done _, _ => []
  | ask r next, w => ⟨r, (s.answer r w).1⟩ :: (next (s.answer r w).1).history (s.answer r w).2

def requests (p : Program α) (w : σ) : List Request := (p.history s w).map Exchange.request

@[simp] theorem run_done (a : α) (w : σ) : (done a).run s w = (a, w) := rfl

@[simp] theorem run_ask (r : Request) (next : r.Answer → Program α) (w : σ) :
    (ask r next).run s w = (next (s.answer r w).1).run s (s.answer r w).2 := rfl

@[simp] theorem history_done (a : α) (w : σ) : (done a).history s w = [] := rfl

@[simp] theorem history_ask (r : Request) (next : r.Answer → Program α) (w : σ) :
    (ask r next).history s w =
      ⟨r, (s.answer r w).1⟩ :: (next (s.answer r w).1).history s (s.answer r w).2 := rfl

@[simp] theorem requests_done (a : α) (w : σ) : (done a).requests s w = [] := rfl

@[simp] theorem requests_ask (r : Request) (next : r.Answer → Program α) (w : σ) :
    (ask r next).requests s w = r :: (next (s.answer r w).1).requests s (s.answer r w).2 := rfl

theorem history_bind (p : Program α) (f : α → Program β) (w : σ) :
    (p.bind f).history s w =
      p.history s w ++ (f (p.run s w).1).history s (p.run s w).2 := by
  induction p generalizing w with
  | done a => rfl
  | ask r next ih =>
    simp only [ask_bind, history_ask, run_ask, List.cons_append, ih]

theorem requests_bind (p : Program α) (f : α → Program β) (w : σ) :
    (p.bind f).requests s w =
      p.requests s w ++ (f (p.run s w).1).requests s (p.run s w).2 := by
  simp only [requests, history_bind, List.map_append]

/-! ## Programs with few kinds of requests -/

variable {s}

theorem Only.history {P : Request → Prop} {p : Program α} (hp : p.Only P) (w : σ) :
    ∀ r ∈ p.requests s w, P r := by
  induction p generalizing w with
  | done a => simp
  | ask r next ih =>
    simp only [requests_ask, List.forall_mem_cons]
    exact ⟨hp.1, ih _ (hp.2 _) _⟩

/-- **A state that no request of a program changes is the same after its run.** -/
theorem Only.run_eq {P : Request → Prop} {γ : Type} {view : σ → γ}
    (hview : ∀ r w, P r → view (s.answer r w).2 = view w) {p : Program α} (hp : p.Only P) (w : σ) :
    view (p.run s w).2 = view w := by
  induction p generalizing w with
  | done a => rfl
  | ask r next ih => rw [run_ask, ih _ (hp.2 _), hview r w hp.1]

end Program

end DeployWatch
