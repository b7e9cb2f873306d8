import DeployWatch.Proofs.Program.Turns

/-!
# Locks among programs

Programs that take one lock at most, and give back what they took, are orderly. In every interleaving
of orderly programs a lock belongs to one of them at a time, and they get it in the order of asking.

* `askers`, `holders`, `leavers`, `lockEventsOf`: what a log says about locks;
* `Program.Orderly`, `orderly_acquire`: programs that take one lock at most;
* `Stands`: how far a program has come with its lock;
* `Orderly`, `Orderly.step`: who has had a lock, who has it and who waits for it;
* `Orderly.release`, `Orderly.queued`, `Orderly.holder`: what this says about single programs;
* `Orderly.free_of_over`: nobody waits for ever;
* **`Reaches.orderly`**: it holds in every interleaving.
-/

namespace DeployWatch

/-! ## What a log says about locks -/

namespace CrewEvent

variable {α : Type}

def isOfLock : CrewEvent α → Bool
  | asked _ r => r.isOfLock
  | granted .. => true
  | released .. => true
  | ended .. => false

def asker? (k : String) : CrewEvent α → Option Nat
  | asked n (.acquire key) => if k = key then some n else none
  | _ => none

def holder? (k : String) : CrewEvent α → Option Nat
  | granted n key => if k = key then some n else none
  | _ => none

def leaver? (k : String) : CrewEvent α → Option Nat
  | released n key => if k = key then some n else none
  | _ => none

variable {k : String} {e : CrewEvent α} {n : Nat}

theorem asker?_eq_some_iff : e.asker? k = some n ↔ e = .asked n (.acquire k) := by
  constructor
  · intro h
    unfold asker? at h
    split at h
    · split at h
      · cases h
        rename_i hk
        rw [hk]
      · cases h
    · cases h
  · rintro rfl
    simp [asker?]

theorem holder?_eq_some_iff : e.holder? k = some n ↔ e = .granted n k := by
  cases e <;> simp [holder?, eq_comm, and_comm]

theorem leaver?_eq_some_iff : e.leaver? k = some n ↔ e = .released n k := by
  cases e <;> simp [leaver?, eq_comm, and_comm]

theorem asker?_of_not_lock (h : e.isOfLock = false) : e.asker? k = none := by
  refine Option.eq_none_iff_forall_ne_some.mpr fun n hn => ?_
  rw [asker?_eq_some_iff.mp hn] at h
  cases h

theorem holder?_of_not_lock (h : e.isOfLock = false) : e.holder? k = none := by
  refine Option.eq_none_iff_forall_ne_some.mpr fun n hn => ?_
  rw [holder?_eq_some_iff.mp hn] at h
  cases h

theorem leaver?_of_not_lock (h : e.isOfLock = false) : e.leaver? k = none := by
  refine Option.eq_none_iff_forall_ne_some.mpr fun n hn => ?_
  rw [leaver?_eq_some_iff.mp hn] at h
  cases h

end CrewEvent

namespace Crew

variable {α : Type}

/-- The programs that have asked for a lock, in their order. -/
def askers (k : String) (log : List (CrewEvent α)) : List Nat := log.filterMap (·.asker? k)

/-- The programs that have got a lock, in their order. -/
def holders (k : String) (log : List (CrewEvent α)) : List Nat := log.filterMap (·.holder? k)

/-- The programs that have given a lock back, in their order. -/
def leavers (k : String) (log : List (CrewEvent α)) : List Nat := log.filterMap (·.leaver? k)

/-- What has come about with one program. -/
def eventsOf (n : Nat) (log : List (CrewEvent α)) : List (CrewEvent α) :=
  log.filter fun e => e.number == n

/-- What has come about with one program and locks. -/
def lockEventsOf (n : Nat) (log : List (CrewEvent α)) : List (CrewEvent α) :=
  log.filter fun e => e.isOfLock && e.number == n

section Logs

variable (k : String) (n : Nat) (log log' : List (CrewEvent α))

@[simp] theorem askers_append : askers k (log ++ log') = askers k log ++ askers k log' :=
  List.filterMap_append

@[simp] theorem holders_append : holders k (log ++ log') = holders k log ++ holders k log' :=
  List.filterMap_append

@[simp] theorem leavers_append : leavers k (log ++ log') = leavers k log ++ leavers k log' :=
  List.filterMap_append

@[simp] theorem eventsOf_append : eventsOf n (log ++ log') = eventsOf n log ++ eventsOf n log' :=
  List.filter_append _ _

@[simp] theorem lockEventsOf_append :
    lockEventsOf n (log ++ log') = lockEventsOf n log ++ lockEventsOf n log' :=
  List.filter_append _ _

variable {k n log}

theorem mem_lockEventsOf_iff {e : CrewEvent α} :
    e ∈ lockEventsOf n log ↔ e.isOfLock = true ∧ e ∈ eventsOf n log := by
  simp only [lockEventsOf, eventsOf, List.mem_filter, Bool.and_eq_true]
  exact and_left_comm

theorem mem_askers_iff : n ∈ askers k log ↔ .asked n (.acquire k) ∈ lockEventsOf n log := by
  simp only [askers, lockEventsOf, List.mem_filterMap, CrewEvent.asker?_eq_some_iff, exists_eq_right,
    List.mem_filter]
  simp [CrewEvent.isOfLock, Request.isOfLock, CrewEvent.number]

theorem mem_holders_iff : n ∈ holders k log ↔ .granted n k ∈ lockEventsOf n log := by
  simp only [holders, lockEventsOf, List.mem_filterMap, CrewEvent.holder?_eq_some_iff,
    exists_eq_right, List.mem_filter]
  simp [CrewEvent.isOfLock, CrewEvent.number]

theorem mem_leavers_iff : n ∈ leavers k log ↔ .released n k ∈ lockEventsOf n log := by
  simp only [leavers, lockEventsOf, List.mem_filterMap, CrewEvent.leaver?_eq_some_iff,
    exists_eq_right, List.mem_filter]
  simp [CrewEvent.isOfLock, CrewEvent.number]

variable {events : List (CrewEvent α)} (h : ∀ e ∈ events, e.isOfLock = false)

include h

theorem askers_of_not_lock : askers k events = [] :=
  List.filterMap_eq_nil_iff.mpr fun e he => CrewEvent.asker?_of_not_lock (h e he)

theorem holders_of_not_lock : holders k events = [] :=
  List.filterMap_eq_nil_iff.mpr fun e he => CrewEvent.holder?_of_not_lock (h e he)

theorem leavers_of_not_lock : leavers k events = [] :=
  List.filterMap_eq_nil_iff.mpr fun e he => CrewEvent.leaver?_of_not_lock (h e he)

theorem lockEventsOf_of_not_lock : lockEventsOf n events = [] :=
  List.filter_eq_nil_iff.mpr fun e he => by simp [h e he]

omit h in
theorem eventsOf_of_ne (hne : ∀ e ∈ events, e.number ≠ n) : eventsOf n events = [] :=
  List.filter_eq_nil_iff.mpr fun e he => by simp [hne e he]

omit h in
theorem lockEventsOf_of_ne (hne : ∀ e ∈ events, e.number ≠ n) : lockEventsOf n events = [] :=
  List.filter_eq_nil_iff.mpr fun e he => by simp [hne e he]

end Logs

end Crew

/-! ## Orderly programs -/

namespace Program

variable {α β : Type}

/-- A program that has nothing to do with locks. -/
def Free (p : Program α) : Prop := p.Only fun r => r.isOfLock = false

/-- A program that holds a lock, gives it back, and has nothing to do with locks otherwise. -/
inductive Inside (key : String) : Program α → Prop
  | ask {r : Request} {next : r.Answer → Program α} : r.isOfLock = false →
    (∀ x, Inside key (next x)) → Inside key (ask r next)
  | release {next : Unit → Program α} : (next ()).Free → Inside key (ask (.release key) next)

/-- A program that takes one lock at most, and gives it back. -/
inductive Orderly : Program α → Prop
  | done (a : α) : Orderly (done a)
  | ask {r : Request} {next : r.Answer → Program α} : r.isOfLock = false →
    (∀ x, Orderly (next x)) → Orderly (ask r next)
  | acquire {key : String} {next : Unit → Program α} : (next ()).Inside key →
    Orderly (ask (.acquire key) next)

theorem Free.inside_bind {key : String} {p : Program α} (hp : p.Free) {f : α → Program β}
    (hf : ∀ a, (f a).Inside key) : (p.bind f).Inside key := by
  induction p with
  | done a => exact hf a
  | ask r next ih => exact .ask hp.1 fun x => ih x (hp.2 x)

def releasing (key : String) (p : Program α) : Program α :=
  p.bind fun a => ask (.release key) fun _ => done a

/-- **Running under a lock is orderly.** -/
theorem orderly_acquire {key : String} {p : Program α} (hp : p.Free) :
    (ask (.acquire key) fun _ => releasing key p).Orderly :=
  .acquire (hp.inside_bind fun _ => .release trivial)

end Program

/-! ## How far a program has come -/

namespace Post

variable {α : Type}

/-- A program that is under way, of which `P` holds. -/
def Goes (P : Program α → Prop) : Post α → Prop
  | ready p => P p
  | asleep _ p => P p
  | _ => False

/-- A program that is under way, of which `P` holds, or that is there no more or has never been. -/
def Runs (P : Program α → Prop) : Post α → Prop
  | queued .. => False
  | ready p => P p
  | asleep _ p => P p
  | _ => True

end Post

namespace Crew

variable {σ α : Type}

/-- How far a program has come with its lock: what has come about so far, and where it stands. -/
inductive Stands (n : Nat) : List (CrewEvent α) → Post α → Prop
  | before {post : Post α} : post.Runs Program.Orderly → Stands n [] post
  | waiting {key : String} {p : Program α} : p.Inside key →
    Stands n [.asked n (.acquire key)] (.queued key p)
  | inside {key : String} {post : Post α} : post.Goes (Program.Inside key) →
    Stands n [.asked n (.acquire key), .granted n key] post
  | after {key : String} {post : Post α} : post.Runs Program.Free →
    Stands n [.asked n (.acquire key), .granted n key, .asked n (.release key), .released n key] post

namespace Stands

variable {n : Nat} {es : List (CrewEvent α)} {key : String}

theorem finish {a : α} (h : Stands n es (.ready (.done a))) : Stands n es (.ended a) := by
  cases h with
  | before _ => exact .before trivial
  | inside h => cases h
  | after _ => exact .after trivial

theorem goOn {r : Request} {next : r.Answer → Program α} (h : Stands n es (.ready (.ask r next)))
    (hr : r.isOfLock = false) (x : r.Answer) : Stands n es (.ready (next x)) := by
  cases h with
  | before h =>
    cases h with
    | ask _ h => exact .before (h x)
    | acquire _ => cases hr
  | inside h =>
    cases h with
    | ask _ h => exact .inside (h x)
    | release _ => cases hr
  | after h => exact .after (h.2 x)

theorem asleep_iff {due : Nat} {p : Program α} :
    Stands n es (.asleep due p) ↔ Stands n es (.ready p) := by
  constructor <;> intro h <;> cases h with
  | before h => exact .before h
  | inside h => exact .inside h
  | after h => exact .after h

theorem wake {post : Post α} (h : Stands n es post) (due : Nat) : Stands n es (post.wake due) := by
  cases post with
  | asleep d p =>
    show Stands n es (if d = due then .ready p else .asleep d p)
    split
    · exact asleep_iff.mp h
    · exact h
  | _ => exact h

theorem acquire {next : Unit → Program α} (h : Stands n es (.ready (.ask (.acquire key) next))) :
    es = [] ∧ (next ()).Inside key := by
  cases h with
  | before h =>
    cases h with
    | ask hr _ => cases hr
    | acquire h => exact ⟨rfl, h⟩
  | inside h =>
    cases h with
    | ask hr _ => cases hr
  | after h => cases h.1

theorem release {next : Unit → Program α} (h : Stands n es (.ready (.ask (.release key) next))) :
    es = [.asked n (.acquire key), .granted n key] ∧ (next ()).Free := by
  cases h with
  | before h =>
    cases h with
    | ask hr _ => cases hr
  | inside h =>
    cases h with
    | ask hr _ => cases hr
    | release h => exact ⟨rfl, h⟩
  | after h => cases h.1

theorem queued {p : Program α} (h : Stands n es (.queued key p)) :
    es = [.asked n (.acquire key)] ∧ p.Inside key := by
  cases h with
  | before h => cases h
  | waiting h => exact ⟨rfl, h⟩
  | inside h => cases h
  | after h => cases h

/-- A program that has got a lock and not given it back is under way. -/
theorem goes_of_granted {post : Post α} (h : Stands n es post) (hgot : .granted n key ∈ es)
    (hleft : .released n key ∉ es) : post.Goes (Program.Inside key) := by
  cases h with
  | before _ => cases hgot
  | waiting _ => simp at hgot
  | inside h =>
    obtain rfl : key = _ := by simpa using hgot
    exact h
  | after _ => simp_all

end Stands

/-! ## Order among programs -/

/-- The order in which programs have asked for a lock, got it and given it back, and the queue for it.
Each asks once. It has been given back by all who had it, or by all but one, who has it. Who has asked
has got it, in the order of asking, or waits for it. -/
structure Line (asked got left : List Nat) (queue : Option (List Nat)) : Prop where
  once : asked.Nodup
  fair : asked = got ++ queue.getD []
  free : queue = none → got = left
  held : queue ≠ none → ∃ n, got = left ++ [n]

namespace Line

variable {asked got left q : List Nat} {n : Nat}

theorem start : Line [] [] [] none := ⟨List.nodup_nil, rfl, fun _ => rfl, fun h => absurd rfl h⟩

theorem once_append (honce : asked.Nodup) (hn : n ∉ asked) : (asked ++ [n]).Nodup := by
  refine List.nodup_append.mpr ⟨honce, List.pairwise_singleton _ n, fun m hm m' hm' => ?_⟩
  rw [List.mem_singleton.mp hm']
  rintro rfl
  exact hn hm

theorem enter (h : Line asked got left none) (hn : n ∉ asked) :
    Line (asked ++ [n]) (got ++ [n]) left (some []) where
  once := once_append h.once hn
  fair := by
    have hfair : asked = got ++ [] := h.fair
    rw [hfair]
    simp
  free hnone := by cases hnone
  held _ := ⟨n, by rw [h.free rfl]⟩

theorem wait (h : Line asked got left (some q)) (hn : n ∉ asked) :
    Line (asked ++ [n]) got left (some (q ++ [n])) where
  once := once_append h.once hn
  fair := by
    have hfair : asked = got ++ q := h.fair
    rw [hfair, Option.getD_some, List.append_assoc]
  free hnone := by cases hnone
  held _ := h.held (by simp)

theorem handOver {first : Nat} (h : Line asked got left (some (first :: q))) (hn : got = left ++ [n]) :
    Line asked (got ++ [first]) (left ++ [n]) (some q) where
  once := h.once
  fair := by
    have hfair : asked = got ++ first :: q := h.fair
    rw [hfair, Option.getD_some, List.append_assoc]
    rfl
  free hnone := by cases hnone
  held _ := ⟨first, by rw [hn]⟩

theorem letGo {queue : Option (List Nat)} (h : Line asked got left queue)
    (hqueue : queue = none ∨ queue = some []) (hn : got = left ++ [n]) :
    Line asked got (left ++ [n]) none where
  once := h.once
  fair := by
    have hfair := h.fair
    rcases hqueue with rfl | rfl <;> exact hfair
  free _ := hn
  held hnone := absurd rfl hnone

/-- Who has got a lock and not given it back has it. -/
theorem eq_append_of_mem {queue : Option (List Nat)} (h : Line asked got left queue) (hgot : n ∈ got)
    (hkept : n ∉ left) : queue ≠ none ∧ got = left ++ [n] := by
  have hheld : queue ≠ none := fun hnone => hkept (h.free hnone ▸ hgot)
  obtain ⟨m, hm⟩ := h.held hheld
  rw [hm] at hgot ⊢
  rcases List.mem_append.mp hgot with hleft | hlast
  · exact absurd hleft hkept
  · rw [List.mem_singleton.mp hlast]
    exact ⟨hheld, rfl⟩

end Line

/-- Every program takes one lock at most, and there is an order at every lock. -/
structure Orderly (log : List (CrewEvent α)) (F : Floor σ α) : Prop where
  stands (n : Nat) : Stands n (lockEventsOf n log) (F.post n)
  line (key : String) : Line (askers key log) (holders key log) (leavers key log) (F.queue key)

namespace Orderly

variable {log events : List (CrewEvent α)} {F F' : Floor σ α} {s : Surroundings σ} {eager : Prop}
  {n : Nat} {key : String}

theorem acquire (h : Orderly log F) {next : Unit → Program α}
    (hpost : F.post n = .ready (.ask (.acquire key) next)) :
    lockEventsOf n log = [] ∧ (next ()).Inside key :=
  Stands.acquire (hpost ▸ h.stands n)

/-- A program that gives a lock back is the one that has it. -/
theorem release (h : Orderly log F) {next : Unit → Program α}
    (hpost : F.post n = .ready (.ask (.release key) next)) :
    lockEventsOf n log = [.asked n (.acquire key), .granted n key] ∧ (next ()).Free ∧
      F.queue key ≠ none ∧ holders key log = leavers key log ++ [n] := by
  obtain ⟨hes, hfree⟩ := Stands.release (hpost ▸ h.stands n)
  have hgot : n ∈ holders key log := by simp [mem_holders_iff, hes]
  have hkept : n ∉ leavers key log := by simp [mem_leavers_iff, hes]
  exact ⟨hes, hfree, (h.line key).eq_append_of_mem hgot hkept⟩

theorem queued (h : Orderly log F) {p : Program α} (hpost : F.post n = .queued key p) :
    ∃ q, F.queue key = some q ∧ n ∈ q := by
  obtain ⟨hes, -⟩ := Stands.queued (hpost ▸ h.stands n)
  have hasked : n ∈ askers key log := by simp [mem_askers_iff, hes]
  have hgot : n ∉ holders key log := by simp [mem_holders_iff, hes]
  rw [(h.line key).fair] at hasked
  have hn := (List.mem_append.mp hasked).resolve_left hgot
  cases hq : F.queue key with
  | none => simp [hq] at hn
  | some q => exact ⟨q, rfl, by simpa [hq] using hn⟩

theorem nodup_holders (h : Orderly log F) (key : String) : (holders key log).Nodup :=
  ((h.line key).fair ▸ (h.line key).once).sublist (List.sublist_append_left _ _)

/-- Who has a lock that is held is under way. -/
theorem holder (h : Orderly log F) (hq : F.queue key ≠ none) : ∃ n,
    holders key log = leavers key log ++ [n] ∧ n ∉ leavers key log ∧
      (F.post n).Goes (Program.Inside key) := by
  obtain ⟨n, hn⟩ := (h.line key).held hq
  have hnodup := h.nodup_holders key
  have hgot : n ∈ holders key log := hn ▸ List.mem_append_right _ List.mem_cons_self
  have hkept : n ∉ leavers key log := by
    rw [hn, List.nodup_append] at hnodup
    exact fun hleft => hnodup.2.2 n hleft n List.mem_cons_self rfl
  exact ⟨n, hn, hkept, (h.stands n).goes_of_granted (mem_holders_iff.mp hgot)
    (mt mem_leavers_iff.mpr hkept)⟩

/-- Once nobody is ready or asleep, all locks are free and nobody waits. -/
theorem free_of_over (h : Orderly log F)
    (hover : ∀ i p, F.post i ≠ .ready p ∧ ∀ due, F.post i ≠ .asleep due p) :
    (∀ key, F.queue key = none) ∧ ∀ i key p, F.post i ≠ .queued key p := by
  have hfree : ∀ key, F.queue key = none := by
    intro key
    cases hq : F.queue key with
    | none => rfl
    | some q =>
      obtain ⟨n, -, -, hgoes⟩ := h.holder (by simp [hq] : F.queue key ≠ none)
      cases hpost : F.post n with
      | ready p => exact absurd hpost (hover n p).1
      | asleep due p => exact absurd hpost ((hover n p).2 due)
      | _ => simp [hpost, Post.Goes] at hgoes
  refine ⟨hfree, fun i key p hpost => ?_⟩
  obtain ⟨q, hq, -⟩ := h.queued hpost
  rw [hfree key] at hq
  cases hq

/-! ### Steps -/

theorem of_not_lock (h : Orderly log F) (hevents : ∀ e ∈ events, e.isOfLock = false)
    (hqueue : F'.queue = F.queue) (hposts : ∀ i, Stands i (lockEventsOf i log) (F'.post i)) :
    Orderly (log ++ events) F' where
  stands i := by
    rw [lockEventsOf_append, lockEventsOf_of_not_lock hevents, List.append_nil]
    exact hposts i
  line k := by
    rw [askers_append, askers_of_not_lock hevents, holders_append, holders_of_not_lock hevents,
      leavers_append, leavers_of_not_lock hevents, List.append_nil, List.append_nil,
      List.append_nil, hqueue]
    exact h.line k

theorem of_line (h : Orderly log F) (key : String)
    (hothers : ∀ k, k ≠ key → askers k events = [] ∧ holders k events = [] ∧ leavers k events = [] ∧
      F'.queue k = F.queue k)
    (hline : Line (askers key log ++ askers key events) (holders key log ++ holders key events)
      (leavers key log ++ leavers key events) (F'.queue key))
    (hmoved : ∀ i, (∃ e ∈ events, e.number = i) →
      Stands i (lockEventsOf i log ++ lockEventsOf i events) (F'.post i))
    (hrest : ∀ i, (∀ e ∈ events, e.number ≠ i) → F'.post i = F.post i) :
    Orderly (log ++ events) F' where
  stands i := by
    rw [lockEventsOf_append]
    by_cases hi : ∃ e ∈ events, e.number = i
    · exact hmoved i hi
    · replace hi : ∀ e ∈ events, e.number ≠ i := by simpa using hi
      rw [lockEventsOf_of_ne hi, List.append_nil, hrest i hi]
      exact h.stands i
  line k := by
    rw [askers_append, holders_append, leavers_append]
    by_cases hk : k = key
    · rw [hk]
      exact hline
    · obtain ⟨ha, hh, hl, hq⟩ := hothers k hk
      rw [ha, hh, hl, hq, List.append_nil, List.append_nil, List.append_nil]
      exact h.line k

/-- A step that has to do with one lock, in which one program moves. -/
theorem of_line_one (h : Orderly log F) (key : String) (hevents : events ≠ [])
    (hothers : ∀ k, k ≠ key → askers k events = [] ∧ holders k events = [] ∧ leavers k events = [] ∧
      F'.queue k = F.queue k)
    (hline : Line (askers key log ++ askers key events) (holders key log ++ holders key events)
      (leavers key log ++ leavers key events) (F'.queue key))
    (hnumber : ∀ e ∈ events, e.number = n)
    (hmoved : Stands n (lockEventsOf n log ++ lockEventsOf n events) (F'.post n))
    (hrest : ∀ i, i ≠ n → F'.post i = F.post i) : Orderly (log ++ events) F' := by
  obtain ⟨e, he⟩ := List.exists_mem_of_ne_nil _ hevents
  refine h.of_line key hothers hline (fun i hi => ?_) fun i hi => hrest i ?_
  · obtain ⟨e', he', rfl⟩ := hi
    rw [hnumber e' he']
    exact hmoved
  · rintro rfl
    exact hi e he (hnumber e he)

theorem not_mem_askers (hes : lockEventsOf n log = []) : n ∉ askers key log := by
  rw [mem_askers_iff, hes]
  exact List.not_mem_nil

theorem moved (h : Orderly log F) (hevents : ∀ e ∈ events, e.isOfLock = false) (w : σ)
    {post : Post α} (hpost : ∀ es, Stands n es (F.post n) → Stands n es post) :
    Orderly (log ++ events) ((F.within w).put n post) := by
  refine h.of_not_lock hevents rfl fun i => ?_
  rw [Floor.post_put]
  split
  · rename_i hi
    rw [hi]
    exact hpost _ (h.stands n)
  · exact h.stands i

section Locks

variable {next : Unit → Program α} {q : List Nat} (w : σ)

theorem enter (h : Orderly log F) (hpost : F.post n = .ready (.ask (.acquire key) next))
    (hqueue : F.queue key = none) :
    Orderly (log ++ [.asked n (.acquire key), .granted n key])
      (((F.within w).put n (.ready (next ()))).line key (some [])) := by
  obtain ⟨hes, hinside⟩ := h.acquire hpost
  have hline := (hqueue ▸ h.line key).enter (not_mem_askers hes)
  refine h.of_line_one (n := n) key (by simp) (fun k hk => ?_) ?_ (by simp [CrewEvent.number]) ?_
    fun i hi => by simp [hi]
  · simp [askers, holders, leavers, CrewEvent.asker?, CrewEvent.holder?, CrewEvent.leaver?, hk]
  · simpa [askers, holders, leavers, CrewEvent.asker?, CrewEvent.holder?, CrewEvent.leaver?]
      using hline
  · have hstands : Stands n [.asked n (.acquire key), .granted n key] (.ready (next ())) :=
      .inside hinside
    rw [hes]
    simpa [lockEventsOf, CrewEvent.isOfLock, Request.isOfLock, CrewEvent.number] using hstands

theorem wait (h : Orderly log F) (hpost : F.post n = .ready (.ask (.acquire key) next))
    (hqueue : F.queue key = some q) :
    Orderly (log ++ [.asked n (.acquire key)])
      (((F.within w).put n (.queued key (next ()))).line key (some (q ++ [n]))) := by
  obtain ⟨hes, hinside⟩ := h.acquire hpost
  have hline := (hqueue ▸ h.line key).wait (not_mem_askers hes)
  refine h.of_line_one (n := n) key (by simp) (fun k hk => ?_) ?_ (by simp [CrewEvent.number]) ?_
    fun i hi => by simp [hi]
  · simp [askers, holders, leavers, CrewEvent.asker?, CrewEvent.holder?, CrewEvent.leaver?, hk]
  · simpa [askers, holders, leavers, CrewEvent.asker?, CrewEvent.holder?, CrewEvent.leaver?]
      using hline
  · have hstands : Stands n [.asked n (.acquire key)] (.queued key (next ())) := .waiting hinside
    rw [hes]
    simpa [lockEventsOf, CrewEvent.isOfLock, Request.isOfLock, CrewEvent.number] using hstands

theorem letGo (h : Orderly log F) (hpost : F.post n = .ready (.ask (.release key) next))
    (hqueue : F.queue key = none ∨ F.queue key = some []) :
    Orderly (log ++ [.asked n (.release key), .released n key])
      (((F.within w).put n (.ready (next ()))).line key none) := by
  obtain ⟨hes, hfree, -, hholders⟩ := h.release hpost
  have hline := (h.line key).letGo hqueue hholders
  refine h.of_line_one (n := n) key (by simp) (fun k hk => ?_) ?_ (by simp [CrewEvent.number]) ?_
    fun i hi => by simp [hi]
  · simp [askers, holders, leavers, CrewEvent.asker?, CrewEvent.holder?, CrewEvent.leaver?, hk]
  · simpa [askers, holders, leavers, CrewEvent.asker?, CrewEvent.holder?, CrewEvent.leaver?]
      using hline
  · have hstands : Stands n [.asked n (.acquire key), .granted n key, .asked n (.release key),
        .released n key] (.ready (next ())) := .after hfree
    rw [hes]
    simpa [lockEventsOf, CrewEvent.isOfLock, Request.isOfLock, CrewEvent.number] using hstands

theorem handOver (h : Orderly log F) {first : Nat} {p : Program α}
    (hpost : F.post n = .ready (.ask (.release key) next)) (hqueue : F.queue key = some (first :: q))
    (hfirst : F.post first = .queued key p) :
    Orderly (log ++ [.asked n (.release key), .released n key, .granted first key])
      ((((F.within w).put n (.ready (next ()))).put first (.ready p)).line key (some q)) := by
  obtain ⟨hes, hfree, -, hholders⟩ := h.release hpost
  obtain ⟨hes', hinside⟩ := Stands.queued (hfirst ▸ h.stands first)
  have hline := (hqueue ▸ h.line key).handOver hholders
  have hne : first ≠ n := by
    rintro rfl
    rw [hpost] at hfirst
    cases hfirst
  refine h.of_line key (fun k hk => ?_) ?_ (fun i hi => ?_) fun i hi => ?_
  · simp [askers, holders, leavers, CrewEvent.asker?, CrewEvent.holder?, CrewEvent.leaver?, hk]
  · simpa [askers, holders, leavers, CrewEvent.asker?, CrewEvent.holder?, CrewEvent.leaver?]
      using hline
  · obtain rfl | rfl : n = i ∨ first = i := by simpa [CrewEvent.number] using hi
    · have hstands : Stands n [.asked n (.acquire key), .granted n key, .asked n (.release key),
          .released n key] (.ready (next ())) := .after hfree
      rw [hes]
      simpa [lockEventsOf, CrewEvent.isOfLock, Request.isOfLock, CrewEvent.number, hne,
        Ne.symm hne] using hstands
    · have hstands : Stands first [.asked first (.acquire key), .granted first key] (.ready p) :=
        .inside hinside
      rw [hes']
      simpa [lockEventsOf, CrewEvent.isOfLock, CrewEvent.number, hne, Ne.symm hne] using hstands
  · obtain ⟨hn, hfirst⟩ : i ≠ n ∧ i ≠ first := by simpa [CrewEvent.number, eq_comm] using hi
    simp [hn, hfirst]

end Locks

/-- **Every step keeps the order.** -/
theorem step (h : Orderly log F) (hstep : F.Step s eager events F') : Orderly (log ++ events) F' := by
  cases hstep with
  | finish hpost =>
    exact h.moved (by simp [CrewEvent.isOfLock]) F.state fun _ hs => Stands.finish (hpost ▸ hs)
  | goOn hpost hr _ =>
    exact h.moved (by simp [CrewEvent.isOfLock, hr]) _ fun _ hs => Stands.goOn (hpost ▸ hs) hr _
  | sleep hpost hr _ =>
    exact h.moved (by simp [CrewEvent.isOfLock, hr]) _ fun _ hs =>
      Stands.asleep_iff.mpr (Stands.goOn (hpost ▸ hs) hr _)
  | wake _ _ _ => exact h.of_not_lock (by simp) rfl fun i => (h.stands i).wake _
  | enter hpost hqueue => exact h.enter _ hpost hqueue
  | wait hpost hqueue => exact h.wait _ hpost hqueue
  | handOver hpost hqueue hfirst => exact h.handOver _ hpost hqueue hfirst
  | letGo hpost hqueue => exact h.letGo _ hpost hqueue

end Orderly

/-- **Orderly programs keep the order in every interleaving**, and so does all else that steps among
them keep. -/
theorem Reaches.orderly {s : Surroundings σ} {eager : Prop} {programs : List (Program α)} {w : σ}
    {log : List (CrewEvent α)} {c : Crew σ α} (hprograms : ∀ p ∈ programs, p.Orderly)
    {I : List (CrewEvent α) → Floor σ α → Prop} (hstart : I [] (ofPrograms programs w).floor)
    (hstep : ∀ log F events F', Orderly log F → Orderly (log ++ events) F' → I log F →
      F.Step s eager events F' → I (log ++ events) F')
    (h : Reaches s eager (.ofPrograms programs w) log c) :
    c.Tidy ∧ Orderly log c.floor ∧ I log c.floor := by
  refine h.invariant (I := fun log F => Orderly log F ∧ I log F) (tidy_ofPrograms programs w)
    ⟨⟨fun n => ?_, fun key => .start⟩, hstart⟩ ?_
  · refine .before ?_
    rw [post_ofPrograms]
    cases hp : programs[n]? with
    | none => trivial
    | some p => exact hprograms p (List.mem_of_getElem? hp)
  · rintro log F events F' ⟨ho, hI⟩ hs
    exact ⟨ho.step hs, hstep _ _ _ _ ho (ho.step hs) hI hs⟩

end Crew

end DeployWatch
