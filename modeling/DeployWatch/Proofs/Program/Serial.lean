import DeployWatch.Proofs.Program.Ensures
import DeployWatch.Proofs.Program.Locks
import Mathlib.Data.List.Nodup

/-!
# Programs that take effect one after the other

Programs that work on a view of the state under one lock, and on nothing else, change it in an order:
that in which they get the lock.

* `Program.Transaction`: programs that do all they do under a lock;
* `Chain`: effects one after the other;
* `Works`: how far such a program has come, and what it may still do;
* `Serial`, `Serial.step`: the effects so far, in their order;
* **`Reaches.serial`**, `Reaches.serial_of_isOver`: every interleaving comes to such a chain.
-/

namespace DeployWatch

namespace Program

variable {σ ν α : Type}

/-- A program that does nothing, or does all it does under a lock: there it takes a view to another one,
as `R` says. -/
inductive Transaction (s : Surroundings σ) (view : σ → ν) (key : String) (R : ν → α → ν → Prop) :
    Program α → Prop
  | idle (a : α) : Transaction s view key R (done a)
  | locked {body : Program α} : body.Free → (∀ v, body.Ensures s view v fun a _ v' => R v a v') →
    Transaction s view key R (ask (.acquire key) fun _ => releasing key body)

theorem Transaction.mono {s : Surroundings σ} {view : σ → ν} {key : String}
    {R R' : ν → α → ν → Prop} {p : Program α} (h : p.Transaction s view key R)
    (hR : ∀ v a v', R v a v' → R' v a v') : p.Transaction s view key R' := by
  cases h with
  | idle a => exact .idle a
  | locked hfree hens => exact .locked hfree fun v => (hens v).mono fun a _ v' => hR v a v'

theorem Transaction.orderly {s : Surroundings σ} {view : σ → ν} {key : String}
    {R : ν → α → ν → Prop} {p : Program α} (h : p.Transaction s view key R) : p.Orderly := by
  cases h with
  | idle a => exact .done a
  | locked hfree _ => exact orderly_acquire hfree

end Program

namespace Crew

variable {σ ν α : Type}

/-- Effects one after the other, each with the number of its program and the result. -/
inductive Chain (R : Nat → ν → α → ν → Prop) (v : ν) : List (Nat × α) → ν → Prop
  | nil : Chain R v [] v
  | snoc {done : List (Nat × α)} {v' v'' : ν} {i : Nat} {a : α} : Chain R v done v' →
    R i v' a v'' → Chain R v (done ++ [(i, a)]) v''

/-! ## How far a program has come -/

section Works

variable (s : Surroundings σ) (view : σ → ν) (key : String) (R : ν → α → ν → Prop)
  (start : Option (Program α)) (i : Nat)

/-- How far a program has come, if `done` has taken effect so far and led to the view `v`. It may have the
lock, with `now` as the view. -/
inductive Works (done : List (Nat × α)) (v now : ν) (has : Prop) : Post α → Prop
  | absent : start = none → (∀ a, (i, a) ∉ done) → Works done v now has .absent
  | ready {p : Program α} : start = some p → (∀ a, (i, a) ∉ done) → Works done v now has (.ready p)
  | idle {a : α} : start = some (.done a) → (∀ a, (i, a) ∉ done) → Works done v now has (.ended a)
  | waiting {body : Program α} : body.Free →
    (∀ v, body.Ensures s view v fun a _ v' => R v a v') →
    Works done v now has (.queued key (Program.releasing key body))
  | inside {post : Post α} {rest : Program α} : has → post.Goes (· = Program.releasing key rest) →
    rest.Free → rest.Ensures s view now (fun a _ v' => R v a v') → Works done v now has post
  | leaving {a : α} : (i, a) ∈ done → Works done v now has (.ready (.done a))
  | ended {a : α} : (i, a) ∈ done → Works done v now has (.ended a)

namespace Works

variable {s view key R start i} {done done' : List (Nat × α)} {v v' now now' : ν} {has has' : Prop}
  {post : Post α}

/-- What others do does not matter to a program, if it has the lock at most while they do not. -/
theorem mono (h : Works s view key R start i done v now has post)
    (hdone : ∀ a, (i, a) ∈ done' ↔ (i, a) ∈ done)
    (hhas : has → has' ∧ v' = v ∧ now' = now) :
    Works s view key R start i done' v' now' has' post := by
  cases h with
  | absent h hnot => exact .absent h fun a => mt (hdone a).mp (hnot a)
  | ready h hnot => exact .ready h fun a => mt (hdone a).mp (hnot a)
  | idle h hnot => exact .idle h fun a => mt (hdone a).mp (hnot a)
  | waiting hfree hens => exact .waiting hfree hens
  | inside h hpost hfree hens =>
    obtain ⟨h', rfl, rfl⟩ := hhas h
    exact .inside h' hpost hfree hens
  | leaving h => exact .leaving ((hdone _).mpr h)
  | ended h => exact .ended ((hdone _).mpr h)

theorem wake (h : Works s view key R start i done v now has post) (due : Nat) :
    Works s view key R start i done v now has (post.wake due) := by
  cases post with
  | asleep d p =>
    show Works s view key R start i done v now has (if d = due then .ready p else .asleep d p)
    split
    · cases h with
      | inside h hpost hfree hens => exact .inside h hpost hfree hens
    · exact h
  | _ => exact h

theorem finish {a : α} (h : Works s view key R start i done v now has (.ready (.done a))) :
    Works s view key R start i done v now has (.ended a) := by
  cases h with
  | ready h hnot => exact .idle h hnot
  | @inside _ rest _ hpost _ _ => cases rest <;> cases hpost
  | leaving h => exact .ended h

variable (hstart : ∀ p, start = some p → p.Transaction s view key R)

include hstart

/-- Who asks for something else than the lock has the lock. -/
theorem goOn {r : Request} {next : r.Answer → Program α} {w : σ}
    (h : Works s view key R start i done v (view w) has (.ready (.ask r next)))
    (hr : r.isOfLock = false) : has ∧ ∃ rest : Program α,
      next (s.answer r w).1 = Program.releasing key rest ∧ rest.Free ∧
        rest.Ensures s view (view (s.answer r w).2) fun a _ v' => R v a v' := by
  cases h with
  | ready h _ =>
    cases hstart _ h with
    | locked _ _ => cases hr
  | @inside _ rest hhas hpost hfree hens =>
    cases rest with
    | done a =>
      cases hpost
      cases hr
    | ask r' next' =>
      cases hpost
      exact ⟨hhas, _, rfl, hfree.2 _, hens w rfl⟩

/-- Who asks for a lock has not had it yet. -/
theorem acquire {k : String} {next : Unit → Program α}
    (h : Works s view key R start i done v now has (.ready (.ask (.acquire k) next))) :
    k = key ∧ ∃ body : Program α, next () = Program.releasing key body ∧ body.Free ∧
      ∀ v, body.Ensures s view v fun a _ v' => R v a v' := by
  cases h with
  | ready h _ =>
    cases hstart _ h with
    | locked hfree hens => exact ⟨rfl, _, rfl, hfree, hens⟩
  | @inside _ rest _ hpost hfree _ =>
    cases rest with
    | done a => cases hpost
    | ask r' next' =>
      cases hpost
      cases hfree.1

/-- Who gives a lock back has done all it does. -/
theorem release {k : String} {next : Unit → Program α}
    (h : Works s view key R start i done v now has (.ready (.ask (.release k) next))) :
    k = key ∧ has ∧ ∃ a, next () = .done a ∧ R v a now := by
  cases h with
  | ready h _ => cases hstart _ h
  | @inside _ rest hhas hpost hfree hens =>
    cases rest with
    | done a =>
      cases hpost
      exact ⟨rfl, hhas, a, rfl, hens⟩
    | ask r' next' =>
      cases hpost
      cases hfree.1

omit hstart in
theorem queued {k : String} {p : Program α}
    (h : Works s view key R start i done v now has (.queued k p)) :
    ∃ body : Program α, p = Program.releasing key body ∧ body.Free ∧
      ∀ v, body.Ensures s view v fun a _ v' => R v a v' := by
  cases h with
  | waiting hfree hens => exact ⟨_, rfl, hfree, hens⟩
  | inside _ hpost _ _ => cases hpost

end Works

end Works

/-! ## Effects so far -/

/-- All who have got a lock have given it back but one. -/
def HasLock (key : String) (log : List (CrewEvent α)) (n : Nat) : Prop :=
  holders key log = leavers key log ++ [n]

section HasLock

variable {key : String} {log events : List (CrewEvent α)} {n : Nat}

theorem HasLock.eq {i : Nat} (h : HasLock key log n) (hi : HasLock key log i) : i = n := by
  unfold HasLock at h hi
  rw [h] at hi
  simp only [List.append_cancel_left_eq, List.cons.injEq, and_true] at hi
  exact hi.symm

/-- While somebody has a lock, it is not free. -/
theorem HasLock.held {F : Floor σ α} (h : HasLock key log n) (ho : Orderly log F) :
    F.queue key ≠ none := by
  intro hnone
  have hfree := (ho.line key).free hnone
  rw [HasLock, hfree] at h
  simp at h

theorem hasLock_append_iff (hholders : holders key events = []) (hleavers : leavers key events = []) :
    HasLock key (log ++ events) n ↔ HasLock key log n := by
  unfold HasLock
  rw [holders_append, leavers_append, hholders, hleavers, List.append_nil, List.append_nil]

end HasLock

section Serial

variable (s : Surroundings σ) (view : σ → ν) (key : String) (R : Nat → ν → α → ν → Prop)
  (programs : List (Program α)) (v₀ : ν)

/-- The effects of those who have given the lock back, in their order, have led from the first view to
`v`; it is still there while nobody has the lock. -/
structure Serial (log : List (CrewEvent α)) (F : Floor σ α) (done : List (Nat × α)) (v : ν) :
    Prop where
  names : done.map (·.1) = leavers key log
  chain : Chain R v₀ done v
  works (i : Nat) : Works s view key (R i) programs[i]? i done v (view F.state) (HasLock key log i)
    (F.post i)
  free : F.queue key = none → view F.state = v

variable {s view key R programs v₀} {log events : List (CrewEvent α)} {F F' : Floor σ α}
  {done : List (Nat × α)} {v : ν} {eager : Prop}

namespace Serial

/-- A step in which nobody gives the lock back, if only the program that moves may change the view. -/
theorem of_moved (h : Serial s view key R programs v₀ log F done v) {n : Nat}
    (hleavers : leavers key events = [])
    (hpost : Works s view key (R n) programs[n]? n done v (view F'.state)
      (HasLock key (log ++ events) n) (F'.post n))
    (hothers : ∀ i, i ≠ n → F'.post i = F.post i)
    (hhas : ∀ i, i ≠ n → HasLock key log i →
      holders key events = [] ∧ view F'.state = view F.state)
    (hfree : F'.queue key = none → F.queue key = none ∧ view F'.state = view F.state) :
    Serial s view key R programs v₀ (log ++ events) F' done v where
  names := by
    rw [leavers_append, hleavers, List.append_nil]
    exact h.names
  chain := h.chain
  works i := by
    by_cases hi : i = n
    · rw [hi]
      exact hpost
    · rw [hothers i hi]
      refine (h.works i).mono (fun a => Iff.rfl) fun hin => ?_
      obtain ⟨hholders, hview⟩ := hhas i hi hin
      exact ⟨(hasLock_append_iff hholders hleavers).mpr hin, rfl, hview⟩
  free hnone := by
    obtain ⟨hq, hview⟩ := hfree hnone
    rw [hview]
    exact h.free hq

/-- A step in which the one who has the lock gives it back, and another one may get it. -/
theorem of_released (h : Serial s view key R programs v₀ log F done v) {n : Nat} {a : α}
    (hhas : HasLock key log n) (hleavers : leavers key events = [n])
    (heffect : R n v a (view F'.state)) (hpost : F'.post n = .ready (.done a))
    (hothers : ∀ i, i ≠ n → F'.post i = F.post i ∨
      Works s view key (R i) programs[i]? i (done ++ [(n, a)]) (view F'.state) (view F'.state)
        (HasLock key (log ++ events) i) (F'.post i)) :
    Serial s view key R programs v₀ (log ++ events) F' (done ++ [(n, a)]) (view F'.state) where
  names := by
    rw [leavers_append, hleavers, List.map_append, h.names]
    rfl
  chain := h.chain.snoc heffect
  works i := by
    by_cases hi : i = n
    · rw [hi, hpost]
      exact .leaving (List.mem_append_right _ List.mem_cons_self)
    rcases hothers i hi with hsame | hwork
    · rw [hsame]
      refine (h.works i).mono (fun b => ?_) fun hin => absurd (hhas.eq hin) hi
      simp [hi]
    · exact hwork
  free _ := rfl

variable (hlocks : ∀ r w, r.isOfLock = true → view (s.answer r w).2 = view w)
  (hpassing : ∀ t w, view (s.atTime t w) = view w)
  (hprograms : ∀ (i : Nat) (p : Program α), programs[i]? = some p →
    p.Transaction s view key (R i))

theorem finish (h : Serial s view key R programs v₀ log F done v) {n : Nat} {a : α}
    (hpost : F.post n = .ready (.done a)) :
    Serial s view key R programs v₀ (log ++ [.ended n a]) (F.put n (.ended a)) done v := by
  have hwork := (hpost ▸ h.works n).finish
  refine h.of_moved (n := n) rfl ?_ (fun i hi => if_neg hi) (fun i _ _ => ⟨rfl, rfl⟩)
    fun hnone => ⟨hnone, rfl⟩
  rw [hasLock_append_iff rfl rfl, Floor.post_put, if_pos rfl]
  exact hwork

include hpassing in
theorem wake (h : Serial s view key R programs v₀ log F done v) (due : Nat) :
    Serial s view key R programs v₀ log
      { F with state := s.atTime due F.state, post := fun i => (F.post i).wake due } done v where
  names := h.names
  chain := h.chain
  works i := by
    rw [hpassing]
    exact (h.works i).wake due
  free hnone := by
    rw [hpassing]
    exact h.free hnone

section Requests

variable (h : Serial s view key R programs v₀ log F done v) (ho : Orderly log F) {n : Nat}
  {k : String} {q : List Nat}

include h ho hprograms

/-- Who asks for something else than the lock has the lock, and nobody else sees what comes of it. -/
theorem goOn {r : Request} {next : r.Answer → Program α} {post : Post α} {w : σ}
    (hpost : F.post n = .ready (.ask r next)) (hr : r.isOfLock = false)
    (hgoes : post.Goes (· = next (s.answer r F.state).1))
    (hview : view w = view (s.answer r F.state).2) :
    Serial s view key R programs v₀ (log ++ [.asked n r]) ((F.within w).put n post) done v := by
  have hevents : ∀ e ∈ [CrewEvent.asked (α := α) n r], e.isOfLock = false := by
    simp [CrewEvent.isOfLock, hr]
  have hholders := holders_of_not_lock (k := key) hevents
  have hleavers := leavers_of_not_lock (k := key) hevents
  obtain ⟨hhas, rest, hrest, hfree, hens⟩ := (hpost ▸ h.works n).goOn (hprograms n) hr
  refine h.of_moved (n := n) hleavers ?_ (fun i hi => if_neg hi)
    (fun i hi hin => absurd (hhas.eq hin) hi) fun hnone => (hhas.held ho hnone).elim
  rw [hasLock_append_iff hholders hleavers, Floor.post_put, if_pos rfl, Floor.state_put,
    Floor.state_within, hview]
  exact .inside hhas (hrest ▸ hgoes) hfree hens

include hlocks

theorem enter {next : Unit → Program α} (hpost : F.post n = .ready (.ask (.acquire k) next))
    (hqueue : F.queue k = none) :
    Serial s view key R programs v₀ (log ++ [.asked n (.acquire k), .granted n k])
      (((F.within (s.answer (.acquire k) F.state).2).put n (.ready (next ()))).line k (some []))
      done v := by
  obtain ⟨rfl, body, hbody, hfree, hens⟩ := (hpost ▸ h.works n).acquire (hprograms n)
  have hview := hlocks (.acquire k) F.state rfl
  refine h.of_moved (n := n) rfl ?_ (fun i hi => if_neg hi)
    (fun i hi hin => absurd hqueue (hin.held ho)) fun hnone => ?_
  · rw [Floor.post_line, Floor.post_put, if_pos rfl]
    refine .inside ?_ hbody hfree ?_
    · rw [HasLock, holders_append, leavers_append, (ho.line k).free hqueue]
      simp [holders, leavers, CrewEvent.holder?, CrewEvent.leaver?]
    · rw [Floor.state_line, Floor.state_put, Floor.state_within, hview, h.free hqueue]
      exact hens v
  · simp at hnone

omit ho in
theorem wait {next : Unit → Program α} (hpost : F.post n = .ready (.ask (.acquire k) next)) :
    Serial s view key R programs v₀ (log ++ [.asked n (.acquire k)])
      (((F.within (s.answer (.acquire k) F.state).2).put n (.queued k (next ()))).line k
        (some (q ++ [n]))) done v := by
  obtain ⟨rfl, body, hbody, hfree, hens⟩ := (hpost ▸ h.works n).acquire (hprograms n)
  have hview := hlocks (.acquire k) F.state rfl
  refine h.of_moved (n := n) rfl ?_ (fun i hi => if_neg hi) (fun i hi hin => ⟨rfl, hview⟩)
    fun hnone => ?_
  · rw [Floor.post_line, Floor.post_put, if_pos rfl, hbody]
    exact .waiting hfree hens
  · simp at hnone

omit ho in
theorem handOver {first : Nat} {next : Unit → Program α} {p : Program α}
    (hpost : F.post n = .ready (.ask (.release k) next)) (hfirst : F.post first = .queued k p) :
    ∃ done v, Serial s view key R programs v₀
      (log ++ [.asked n (.release k), .released n k, .granted first k])
      ((((F.within (s.answer (.release k) F.state).2).put n (.ready (next ()))).put first
        (.ready p)).line k (some q)) done v := by
  obtain ⟨rfl, hhas, a, ha, heffect⟩ := (hpost ▸ h.works n).release (hprograms n)
  obtain ⟨body, hbody, hfree, hens⟩ := (hfirst ▸ h.works first).queued
  have hview := hlocks (.release k) F.state rfl
  have hne : n ≠ first := by
    rintro rfl
    rw [hpost] at hfirst
    cases hfirst
  refine ⟨_, _, h.of_released hhas (a := a) ?_ ?_ ?_ fun i hi => ?_⟩
  · simp [leavers, CrewEvent.leaver?]
  · exact hview ▸ heffect
  · rw [Floor.post_line, Floor.post_put, if_neg hne, Floor.post_put, if_pos rfl, ha]
  · rw [Floor.post_line, Floor.post_put, Floor.post_put, if_neg hi]
    by_cases hi' : i = first
    · rw [if_pos hi', hi']
      refine .inr (.inside ?_ hbody hfree (hens _))
      rw [HasLock, holders_append, leavers_append, hhas]
      simp [holders, leavers, CrewEvent.holder?, CrewEvent.leaver?]
    · exact .inl (if_neg hi')

omit ho in
theorem letGo {next : Unit → Program α} (hpost : F.post n = .ready (.ask (.release k) next)) :
    ∃ done v, Serial s view key R programs v₀ (log ++ [.asked n (.release k), .released n k])
      (((F.within (s.answer (.release k) F.state).2).put n (.ready (next ()))).line k none)
      done v := by
  obtain ⟨rfl, hhas, a, ha, heffect⟩ := (hpost ▸ h.works n).release (hprograms n)
  have hview := hlocks (.release k) F.state rfl
  refine ⟨_, _, h.of_released hhas (a := a) ?_ ?_ ?_ fun i hi => .inl (if_neg hi)⟩
  · simp [leavers, CrewEvent.leaver?]
  · exact hview ▸ heffect
  · rw [Floor.post_line, Floor.post_put, if_pos rfl, ha]

end Requests

include hlocks hpassing hprograms

/-- **Every step keeps the effects in order.** -/
theorem step (h : Serial s view key R programs v₀ log F done v) (ho : Orderly log F)
    (hstep : F.Step s eager events F') :
    ∃ done v, Serial s view key R programs v₀ (log ++ events) F' done v := by
  cases hstep with
  | finish hpost => exact ⟨done, v, h.finish hpost⟩
  | goOn hpost hr _ => exact ⟨done, v, h.goOn hprograms ho hpost hr rfl rfl⟩
  | sleep hpost hr _ => exact ⟨done, v, h.goOn hprograms ho hpost hr rfl (hpassing _ _)⟩
  | wake _ _ _ =>
    rw [List.append_nil]
    exact ⟨done, v, h.wake hpassing _⟩
  | enter hpost hqueue => exact ⟨done, v, h.enter hlocks hprograms ho hpost hqueue⟩
  | wait hpost _ => exact ⟨done, v, h.wait hlocks hprograms hpost⟩
  | handOver hpost _ hfirst => exact h.handOver hlocks hprograms hpost hfirst
  | letGo hpost _ => exact h.letGo hlocks hprograms hpost

omit hlocks hpassing hprograms in
/-- Once nobody is ready or asleep, the lock is free and everyone has ended. -/
theorem ended (h : Serial s view key R programs v₀ log F done v) (ho : Orderly log F)
    (hover : ∀ i p, F.post i ≠ .ready p ∧ ∀ due, F.post i ≠ .asleep due p) :
    F.queue key = none ∧ (∀ i a, (i, a) ∈ done → F.post i = .ended a) ∧
      ∀ i p, programs[i]? = some p → ∃ a, F.post i = .ended a ∧ ((i, a) ∈ done ∨ p = .done a) := by
  obtain ⟨hqueues, hwaiting⟩ := ho.free_of_over hover
  have hnone := hqueues key
  have hworks : ∀ i, (∃ a, F.post i = .ended a ∧ ((i, a) ∈ done ∨ programs[i]? = some (.done a) ∧
      ∀ b, (i, b) ∉ done)) ∨ (programs[i]? = none ∧ ∀ b, (i, b) ∉ done) := by
    intro i
    have hwork := h.works i
    generalize hpost : F.post i = post at hwork
    cases hwork with
    | absent hp hnot => exact .inr ⟨hp, hnot⟩
    | ready _ _ => exact absurd hpost (hover i _).1
    | idle hp hnot => exact .inl ⟨_, rfl, .inr ⟨hp, hnot⟩⟩
    | waiting _ _ => exact absurd hpost (hwaiting i key _)
    | inside _ hgoes _ _ =>
      cases post with
      | ready p => exact absurd hpost (hover i p).1
      | asleep due p => exact absurd hpost ((hover i p).2 due)
      | _ => cases hgoes
    | leaving _ => exact absurd hpost (hover i _).1
    | ended hdone => exact .inl ⟨_, rfl, .inl hdone⟩
  -- Nobody takes effect twice.
  have hnodup : (done.map (·.1)).Nodup := by
    rw [h.names, ← (ho.line key).free hnone]
    exact ho.nodup_holders key
  refine ⟨hnone, fun i a ha => ?_, fun i p hp => ?_⟩
  · rcases hworks i with ⟨b, hb, hdone | ⟨-, hnot⟩⟩ | ⟨-, hnot⟩
    · have hsame := List.inj_on_of_nodup_map hnodup ha hdone rfl
      rw [hb, (Prod.mk.injEq ..).mp hsame |>.2]
    · exact absurd ha (hnot a)
    · exact absurd ha (hnot a)
  · rcases hworks i with ⟨b, hb, hdone | ⟨hp', -⟩⟩ | ⟨hp', -⟩
    · exact ⟨b, hb, .inl hdone⟩
    · rw [hp] at hp'
      exact ⟨b, hb, .inr (Option.some.inj hp')⟩
    · rw [hp] at hp'
      cases hp'

end Serial

end Serial

/-! ## Interleavings -/

section Reaches

variable {s : Surroundings σ} {view : σ → ν} {key : String} {R : Nat → ν → α → ν → Prop}
  {programs : List (Program α)} {eager : Prop} {w : σ} {log : List (CrewEvent α)} {c : Crew σ α}
  (hlocks : ∀ r w, r.isOfLock = true → view (s.answer r w).2 = view w)
  (hpassing : ∀ t w, view (s.atTime t w) = view w)
  (hprograms : ∀ (i : Nat) (p : Program α), programs[i]? = some p →
    p.Transaction s view key (R i))
  (h : Reaches s eager (.ofPrograms programs w) log c)

include hlocks hpassing hprograms h

/-- **Every interleaving comes to effects in the order in which the lock was got.** -/
theorem Reaches.serial : c.Tidy ∧ Orderly log c.floor ∧
    ∃ done v, Serial s view key R programs (view w) log c.floor done v := by
  refine h.orderly (I := fun log F => ∃ done v, Serial s view key R programs (view w) log F done v)
    (fun p hp => ?_) ?_ ?_
  · obtain ⟨i, hi⟩ := List.getElem?_of_mem hp
    exact (hprograms i p hi).orderly
  · refine ⟨[], view w, rfl, .nil, fun i => ?_, fun _ => rfl⟩
    rw [post_ofPrograms]
    cases hp : programs[i]? with
    | none => exact .absent rfl fun a => List.not_mem_nil
    | some p => exact .ready rfl fun a => List.not_mem_nil
  · rintro log F events F' ho _ ⟨done, v, hserial⟩ hstep
    exact hserial.step hlocks hpassing hprograms ho hstep

/-- **At the end all have ended**, and the effects are those of all who have got the lock, in that
order. -/
theorem Reaches.serial_of_isOver (hover : c.isOver = true) : ∃ done : List (Nat × α),
    done.map (·.1) = holders key log ∧ Chain R (view w) done (view c.state) ∧
      (∀ e ∈ done, c.ended.lookup e.1 = some e.2) ∧
      ∀ (i : Nat) (p : Program α), programs[i]? = some p →
        ∃ a, c.ended.lookup i = some a ∧ ((i, a) ∈ done ∨ p = .done a) := by
  obtain ⟨htidy, ho, done, v, hserial⟩ := h.serial hlocks hpassing hprograms
  obtain ⟨hnone, hdone, hall⟩ := hserial.ended ho fun i p => not_ready_of_isOver hover
  refine ⟨done, ?_, ?_, fun e he => htidy.lookup_ended_iff.mpr (hdone _ _ he), fun i p hp => ?_⟩
  · rw [hserial.names, (ho.line key).free hnone]
  · rw [show view c.state = v from hserial.free hnone]
    exact hserial.chain
  · obtain ⟨a, ha, hor⟩ := hall i p hp
    exact ⟨a, htidy.lookup_ended_iff.mpr ha, hor⟩

end Reaches

end Crew

end DeployWatch
