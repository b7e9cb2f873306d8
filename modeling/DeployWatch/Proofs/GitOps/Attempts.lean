import DeployWatch.Proofs.GitOps.AllOrNothing

/-!
# Attempts of an update

An update that fails is tried again. Which attempt is the last one is a matter of the results of all
attempts alone: each attempt starts where the pause after the one before has ended.

* `LastAttempt`: the attempt that decides, told by the results of all attempts;
* `attemptStart`, `pause`: the states in which attempts start, and what lies between them;
* `retrying_run`: the attempts of a program that is tried again, with their pauses;
* `attempt_history`, `attempt_delays`: what one attempt asks for;
* `GitClient.Lockless`, `commandLine_lockless`, `update_lockless`: whose errors an update passes on;
* **`update_retries`**: the attempts of an update.
-/

namespace DeployWatch

open Program (ask done)

namespace Updater

/-! ## The last attempt -/

/-- Of `count` attempts with these results, the `n`-th (counted from zero) is the last one that is made:
all before it have failed in a way that may pass, and it has not, or there is none left. -/
structure LastAttempt (count : Nat) (result : Nat → Except GitOpsError Unit) (n : Nat) : Prop where
  within : n < count
  again : ∀ k < n, ∃ e, result k = .error e ∧ e.isRetryable = true
  ended : result n = .ok () ∨ (∃ e, result n = .error e ∧ e.isRetryable = false) ∨ n + 1 = count

theorem LastAttempt.next {count : Nat} {result : Nat → Except GitOpsError Unit} {n : Nat}
    {e : GitOpsError} (hfirst : result 0 = .error e) (hagain : e.isRetryable = true)
    (h : LastAttempt count (fun k => result (k + 1)) n) : LastAttempt (count + 1) result (n + 1) where
  within := Nat.succ_lt_succ h.within
  again k hk := by
    cases k with
    | zero => exact ⟨e, hfirst, hagain⟩
    | succ k => exact h.again k (Nat.lt_of_succ_lt_succ hk)
  ended := h.ended.imp_right (Or.imp_right (congrArg (· + 1)))

/-! ## Attempts and pauses -/

/-- What lies between an attempt, counted from zero, and the next one. -/
def pause (b : Backoff) (number : Nat) : Program Unit :=
  ask .clockNanos fun nanos => ask (.sleep (b.delay (UInt32.ofNat number) nanos)) fun _ => done ()

section Attempts

variable {σ : Type} (s : Surroundings σ) (b : Backoff) (body : Program (Except GitOpsError Unit))

/-- The state in which the `k`-th attempt from here starts, if those before it have to be repeated;
`number` attempts have been made already. -/
def attemptStart (number : Nat) (w : σ) : Nat → σ
  | 0 => w
  | k + 1 => ((pause b (number + k)).run s (body.run s (attemptStart number w k)).2).2

/-- The requests of an attempt and of the pause after it. -/
def repeatedHistory (number : Nat) (w : σ) (k : Nat) : List Exchange :=
  body.history s (attemptStart s b body number w k) ++
    (pause b (number + k)).history s (body.run s (attemptStart s b body number w k)).2

theorem attemptStart_succ (number : Nat) (w : σ) (k : Nat) :
    attemptStart s b body number w (k + 1) = attemptStart s b body (number + 1)
      ((pause b number).run s (body.run s w).2).2 k := by
  induction k with
  | zero => rfl
  | succ k ih =>
    rw [attemptStart, ih, attemptStart, Nat.add_right_comm, Nat.add_assoc]

theorem repeatedHistory_succ (number : Nat) (w : σ) (k : Nat) :
    repeatedHistory s b body number w (k + 1) = repeatedHistory s b body (number + 1)
      ((pause b number).run s (body.run s w).2).2 k := by
  rw [repeatedHistory, repeatedHistory, attemptStart_succ, Nat.add_right_comm, Nat.add_assoc]

/-- **A program that is tried again** runs once more after each pause, up to the last attempt, whose
result is that of all. -/
theorem retrying_run (left number : Nat) (w : σ) : ∃ n,
    LastAttempt (left + 1) (fun k => (body.run s (attemptStart s b body number w k)).1) n ∧
      (retrying b body left number).run s w = body.run s (attemptStart s b body number w n) ∧
      (retrying b body left number).history s w =
        (List.range n).flatMap (repeatedHistory s b body number w) ++
          body.history s (attemptStart s b body number w n) := by
  induction left generalizing number w with
  | zero => exact ⟨0, ⟨Nat.one_pos, nofun, .inr (.inr rfl)⟩, rfl, rfl⟩
  | succ left ih =>
    rw [retrying_succ]
    simp only [Program.run_bind, Program.history_bind]
    cases hresult : (body.run s w).1 with
    | ok _ =>
      refine ⟨0, ⟨Nat.succ_pos _, nofun, .inl hresult⟩, ?_, ?_⟩
      · exact Prod.ext hresult.symm rfl
      · exact List.append_nil _
    | error e =>
      cases hagain : e.isRetryable with
      | false =>
        refine ⟨0, ⟨Nat.succ_pos _, nofun, .inr (.inl ⟨e, hresult, hagain⟩)⟩, ?_, ?_⟩
        · simp only [hagain]
          exact Prod.ext hresult.symm rfl
        · simp only [hagain]
          exact List.append_nil _
      | true =>
        simp only [hagain, if_true]
        obtain ⟨n, hn, hrun, hhistory⟩ :=
          ih (number + 1) ((pause b number).run s (body.run s w).2).2
        simp only [← attemptStart_succ] at hn hrun hhistory
        have hrange : (List.range (n + 1)).flatMap (repeatedHistory s b body number w) =
            repeatedHistory s b body number w 0 ++ (List.range n).flatMap
              (repeatedHistory s b body (number + 1) ((pause b number).run s (body.run s w).2).2) := by
          rw [List.range_succ_eq_map, List.flatMap_cons, List.flatMap_map]
          simp only [repeatedHistory_succ]
        refine ⟨n + 1, hn.next hresult hagain, hrun, ?_⟩
        rw [hrange, List.append_assoc, ← hhistory, repeatedHistory, List.append_assoc]
        rfl

end Attempts

/-! ## One attempt -/

variable {σ : Type} (s : Surroundings σ) (u : Updater) (r : Repository) (t : Task)
  (ps : List Parameter)

/-- An attempt gets a copy of its own, and all it does then is about this copy. -/
theorem attempt_history (w : σ) : (u.attempt r t ps).history s w =
    (u.client.checkout r).history s w ++
      match (u.client.checkout r).run s w with
      | (.error _, _) => []
      | (.ok copy, w') => (u.useCopy r t ps copy).history s w' := by
  rw [attempt_eq, Program.history_bind]
  cases (u.client.checkout r).run s w with
  | mk result w' => cases result <;> rfl

/-- The delays that were asked for. -/
def delays (h : List Exchange) : List Nat := h.filterMap fun
  | ⟨.sleep duration, _⟩ => some duration
  | _ => none

theorem delays_append (h h' : List Exchange) : delays (h ++ h') = delays h ++ delays h' :=
  List.filterMap_append

theorem delays_flatMap (l : List Nat) (f : Nat → List Exchange) :
    delays (l.flatMap f) = l.flatMap fun k => delays (f k) := List.filterMap_flatMap

theorem attempt_delays (w : σ) : delays ((u.attempt r t ps).history s w) = [] := by
  have honly : (u.attempt r t ps).Only fun q => ∀ duration, q ≠ .sleep duration := by
    refine u.attempt_only (fun q hq => ?_) (fun _ => nofun) r t ps
    rintro duration rfl
    cases hq
  refine List.filterMap_eq_nil_iff.mpr fun e he => ?_
  have hrequest := honly.history (s := s) w e.request (List.mem_map_of_mem he)
  split
  · exact absurd rfl (hrequest _)
  · rfl

end Updater

/-! ## Whose errors are passed on -/

/-- A result that is no failure of a lock. -/
def NoLockFault {α : Type} (x : Except GitOpsError α) : Prop := ∀ fault, x ≠ .error (.lock fault)

section Results

variable {α β : Type}

theorem NoLockFault.error {e : GitOpsError} (h : NoLockFault (.error e : Except GitOpsError α)) :
    NoLockFault (.error e : Except GitOpsError β) :=
  fun fault he => h fault (congrArg Except.error (Except.error.inj he))

theorem NoLockFault.bind {x : Except GitOpsError α} {f : α → Except GitOpsError β}
    (hx : NoLockFault x) (hf : ∀ a, NoLockFault (f a)) : NoLockFault (x >>= f) := by
  cases x with
  | error e => exact hx.error
  | ok a => exact hf a

theorem noLockFault_fileResult (x : Except FileError α) : NoLockFault (fileResult x) := by
  cases x <;> exact nofun

end Results

theorem noLockFault_readOverrides (l : TextLayer) (tree : FileTree) (file : String) :
    NoLockFault (readOverrides l tree file) := by
  refine NoLockFault.bind ?_ fun text => ?_
  · unfold textOrEmpty
    split
    · exact nofun
    · exact noLockFault_fileResult _
  · split <;> exact nofun

theorem noLockFault_writeOverrides (l : TextLayer) (f : OverrideFile) (tree : FileTree)
    (file : String) : NoLockFault (writeOverrides l f tree file) := by
  refine (noLockFault_fileResult _).bind fun tree => ?_
  split
  · exact nofun
  · exact noLockFault_fileResult _

theorem noLockFault_editOverrides (l : TextLayer) (ps : List Parameter) (tree : FileTree)
    (file : String) : NoLockFault (editOverrides l ps tree file) := by
  refine (noLockFault_readOverrides l tree file).bind fun f => ?_
  dsimp only
  split
  · exact (noLockFault_writeOverrides l _ tree file).bind fun _ => nofun
  · exact nofun

theorem noLockFault_check (c : Command) (x : CommandResult) : NoLockFault (x.check c) := by
  unfold CommandResult.check
  split <;> exact nofun

/-- A program none of whose runs ends with a failure of a lock. -/
def Program.Lockless {σ α : Type} (s : Surroundings σ) (p : Program (Except GitOpsError α)) : Prop :=
  ∀ w, NoLockFault (p.run s w).1

/-- Access to repositories whose own failures are none of a lock. -/
structure GitClient.Lockless {σ : Type} (c : GitClient) (s : Surroundings σ) : Prop where
  checkout : ∀ r, (c.checkout r).Lockless s
  push : ∀ copy r file message, (c.push copy r file message).Lockless s

section Programs

variable {σ α β : Type} {s : Surroundings σ}

theorem lockless_done {x : Except GitOpsError α} (h : NoLockFault x) : (done x).Lockless s :=
  fun _ => h

theorem lockless_ask {q : Request} {next : q.Answer → Program (Except GitOpsError α)}
    (h : ∀ x, (next x).Lockless s) : (ask q next).Lockless s :=
  fun w => h _ (s.answer q w).2

theorem Program.Lockless.bind {p : Program (Except GitOpsError α)}
    {f : Except GitOpsError α → Program (Except GitOpsError β)} (hp : p.Lockless s)
    (hf : ∀ x, NoLockFault x → (f x).Lockless s) : (p.bind f).Lockless s := by
  intro w
  rw [Program.run_bind]
  exact hf _ (hp w) _

theorem GitClient.runAll_lockless (cs : List Command) : (runAll cs).Lockless s := by
  induction cs with
  | nil => exact lockless_done fun _ h => by cases h
  | cons c rest ih =>
    unfold runAll
    split
    · exact lockless_done fun _ h => by cases h
    · rw [Program.bind_eq, Program.request_bind]
      refine lockless_ask fun x => ?_
      have hcheck := noLockFault_check c x
      split
      · exact ih
      · rename_i e he
        rw [he] at hcheck
        exact lockless_done hcheck

/-- Calls of git fail with no error of a lock. -/
theorem GitClient.commandLine_lockless (g : GitConfig) (s : Surroundings σ) :
    (GitClient.commandLine g).Lockless s where
  checkout _ := lockless_ask fun _ => (runAll_lockless _).bind fun
    | .ok (), _ => lockless_ask fun _ => lockless_done nofun
    | .error _, he => lockless_done he.error
  push _ _ _ _ := runAll_lockless _

end Programs

namespace Updater

theorem noLockFault_target? (a : Application) (t : Task) : NoLockFault (target? a t) := by
  unfold target?
  split
  · exact nofun
  · split
    · exact nofun
    · split <;> exact nofun

variable {σ : Type} {s : Surroundings σ} (u : Updater)

section Lockless

variable (hu : u.client.Lockless s)

include hu

theorem attempt_lockless (r : Repository) (t : Task) (ps : List Parameter) :
    (u.attempt r t ps).Lockless s := by
  rw [attempt_eq]
  refine (hu.checkout r).bind fun
    | .error _, he => lockless_done he.error
    | .ok copy, _ => ?_
  show (u.useCopy r t ps copy).Lockless s
  unfold useCopy
  have hedit := noLockFault_editOverrides u.layer ps copy.files (overridePath r t.app)
  split
  · rename_i he
    rw [he] at hedit
    exact lockless_done hedit.error
  · exact lockless_done nofun
  · exact Program.Lockless.bind (hu.push _ _ _ _) fun
      | .error _, he => lockless_done he
      | .ok (), _ => lockless_ask fun _ => lockless_done nofun

theorem commit_lockless (r : Repository) (t : Task) (ps : List Parameter) :
    (u.commit r t ps).Lockless s := by
  intro w
  obtain ⟨n, -, hrun, -⟩ :=
    retrying_run s u.backoff (u.attempt r t ps) (u.backoff.count - 1) 0 w
  rw [commit, hrun]
  exact u.attempt_lockless hu r t ps _

/-- An update fails with no error of a lock. -/
theorem update_lockless (a : Application) (t : Task) : (u.update a t).Lockless s := by
  have htarget := noLockFault_target? a t
  rw [update_eq]
  split
  · rename_i he
    rw [he] at htarget
    exact lockless_done htarget.error
  · exact lockless_done nofun
  · exact lockless_ask fun _ => (u.commit_lockless hu _ t _).bind fun _ hx =>
      lockless_ask fun _ => lockless_done hx

end Lockless

/-! ## All attempts -/

/-- **An update is tried again after failures that may pass.** It makes attempts up to the first that
succeeds or fails for good, or as many as its backoff allows, one at least; its result is that of the last
attempt. Every attempt begins with a checkout and works on the copy that this has given. Between an
attempt and the next one lies the delay of the backoff for the attempt's number, at the clock's reading
then, and there are no other delays. What comes of the attempts is what comes of the update, whose lock
adds no failure of its own. -/
theorem update_retries (r : Repository) (t : Task) (ps : List Parameter) (w : σ) :
    let body := u.attempt r t ps
    let start := attemptStart s u.backoff body 0 w
    let nanos := fun k => (s.answer .clockNanos (body.run s (start k)).2).1
    let delay := fun k => u.backoff.delay (UInt32.ofNat k) (nanos k)
    (∃ n, LastAttempt (max 1 u.backoff.maxAttempts.toNat) (fun k => (body.run s (start k)).1) n ∧
      (u.commit r t ps).run s w = body.run s (start n) ∧
      (u.commit r t ps).history s w = ((List.range n).flatMap fun k =>
        body.history s (start k) ++ [⟨.clockNanos, nanos k⟩, ⟨.sleep (delay k), ()⟩]) ++
          body.history s (start n) ∧
      delays ((u.commit r t ps).history s w) = (List.range n).map delay ∧
      ∀ k ≤ n, (UInt32.ofNat k).toNat = k) ∧
    (∀ v, body.history s v = (u.client.checkout r).history s v ++
      match (u.client.checkout r).run s v with
      | (.error _, _) => []
      | (.ok copy, v') => (u.useCopy r t ps copy).history s v') ∧
    ∀ a, (Authorised a t r → ∀ v, ((u.update a t).run s v).1 =
        ((u.commit r t (imageParameters t a.watch)).run s (s.answer (.acquire t.app) v).2).1) ∧
      (u.client.Lockless s → ∀ v fault, ((u.update a t).run s v).1 ≠ .error (.lock fault)) := by
  intro body start nanos delay
  refine ⟨?_, u.attempt_history s r t ps,
    fun a => ⟨fun ha v => ?_, fun hu => u.update_lockless hu a t⟩⟩
  · have hcount : u.backoff.count - 1 + 1 = max 1 u.backoff.maxAttempts.toNat := by
      rw [Backoff.count, Nat.max_comm, Nat.sub_add_cancel (Nat.le_max_left _ _)]
    obtain ⟨n, hlast, hrun, hhistory⟩ := retrying_run s u.backoff body (u.backoff.count - 1) 0 w
    have hrepeated : repeatedHistory s u.backoff body 0 w = fun k =>
        body.history s (start k) ++ [⟨.clockNanos, nanos k⟩, ⟨.sleep (delay k), ()⟩] := by
      funext k
      rw [repeatedHistory, Nat.zero_add]
      rfl
    have hdelay : ∀ k, delays (repeatedHistory s u.backoff body 0 w k) = [delay k] := by
      intro k
      rw [hrepeated, delays_append, u.attempt_delays]
      rfl
    rw [hcount] at hlast
    refine ⟨n, hlast, hrun, hrepeated ▸ hhistory, ?_, fun k hk => ?_⟩
    · rw [commit, hhistory, delays_append, u.attempt_delays, List.append_nil, delays_flatMap]
      simp only [hdelay]
      exact List.map_eq_flatMap.symm
    · have hword := u.backoff.maxAttempts.toNat_lt
      have hn := hlast.within
      exact UInt32.toNat_ofNat_of_lt' (show k < 4294967296 by omega)
  · rw [update_of_authorised u ha, Program.run_ask, Program.run_bind]
    rfl

theorem bareHost_lockless : GitClient.remote.Lockless bareHost where
  checkout _ _ fault h := by cases h
  push copy r file message w := by
    show NoLockFault (bareHost.answer (.push copy r file message) w).1
    simp only [bareHost]
    split <;> (intro fault h; cases h)

/-- An update that gives up after three refused pushes, with two delays between them. -/
theorem update_retries_refused :
    let commit := shopUpdater.remotely.commit shopRepository shopTask
      (imageParameters shopTask shopApplication.watch)
    let result := ((shopUpdater.remotely.update shopApplication shopTask).run bareHost ⟨{}, 3⟩).1
    Authorised shopApplication shopTask shopRepository ∧ GitClient.remote.Lockless bareHost ∧
      result = (commit.run bareHost ⟨{}, 3⟩).1 ∧ (∀ fault, result ≠ .error (.lock fault)) ∧
      result.toOption = none ∧ delays (commit.history bareHost ⟨{}, 3⟩) = [1000, 2000] := by
  intro commit result
  obtain ⟨-, -, hupdate⟩ := update_retries (s := bareHost) shopUpdater.remotely shopRepository shopTask
    (imageParameters shopTask shopApplication.watch) ⟨{}, 3⟩
  obtain ⟨hsame, hlock⟩ := hupdate shopApplication
  exact ⟨shop_authorised, bareHost_lockless, hsame shop_authorised ⟨{}, 3⟩,
    hlock bareHost_lockless ⟨{}, 3⟩, by decide +kernel, by decide +kernel⟩

end Updater

end DeployWatch
