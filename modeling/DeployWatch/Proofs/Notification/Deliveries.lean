import DeployWatch.Proofs.Program.Ending
import DeployWatch.Simulation.World

/-!
# Deliveries at the same time

Each channel hands a task over by a program of its own, and the programs of all channels start together.
Here it is followed how far each of them has come, in every interleaving.

* `Handover`, `Channel.program`, `fanOut`: what a channel does with a task, and all channels as a crew;
* `Channel.course`: what comes about with a channel;
* `Progress`: how far a channel has come, with `Progress.goOn`, `sleep`, `finish`, `wake`;
* `Underway`, **`Underway.step`**: every step keeps all channels on their way;
* `underway_of_reaches`: so they are in every interleaving.
-/

namespace DeployWatch

open Crew (endings eventsOf)
open Notifier (Delivered)
open Program (ask done)
open Simulation (World)

/-! ## Deliveries as programs -/

/-- What a channel has done with a task: when it began, what it delivered when, and the result. -/
structure Handover where
  start : Nat
  delivered : Delivered
  result : Except NotifyError Unit

namespace Channel

variable (ch : Channel) (t : Task)

/-- What a channel has done with a task that it began and ended at certain times. -/
def handover (start stop : Nat) : Handover := ⟨start, ⟨stop, ch.name, t⟩, (ch.deliver t).result⟩

/-- Hands a task over: notes the time, takes its own, and notes the time again. -/
def program : Program Handover := do
  let start ← Program.request .elapsed
  Program.sleep (ch.deliver t).delay
  let stop ← Program.request .elapsed
  return ch.handover t start stop

def afterDelay (start : Nat) : Program Handover := ask .elapsed fun stop => done (ch.handover t start stop)

def afterStart (start : Nat) : Program Handover :=
  ask (.sleep (ch.deliver t).delay) fun _ => ch.afterDelay t start

theorem program_eq : ch.program t = ask .elapsed fun start => ch.afterStart t start := rfl

/-- What comes about with a channel, from its start to its end. -/
def course (n : Nat) (h : Handover) : List (CrewEvent Handover) :=
  [.asked n .elapsed, .asked n (.sleep (ch.deliver t).delay), .asked n .elapsed, .ended n h]

end Channel

/-- All channels hand a task over, starting together. -/
def fanOut (channels : List Channel) (t : Task) (w : World) : Crew World Handover :=
  .ofPrograms (channels.map fun ch => ch.program t) { w with time := 0 }

/-! ## One channel -/

section Progress

variable (eager : Prop) (ch : Channel) (t : Task) (n now : Nat)

/-- How far a channel has come: so much has come about with it, and there it stands. If nobody who is ready
is kept waiting, it has begun at once and takes no more than its own time. -/
inductive Progress : List (CrewEvent Handover) → Post Handover → Prop
  | fresh : (eager → now = 0) →
    Progress [] (.ready (ask .elapsed fun start => ch.afterStart t start))
  | begun {start : Nat} : (eager → start = 0 ∧ now = 0) →
    Progress [.asked n .elapsed]
      (.ready (ask (.sleep (ch.deliver t).delay) fun _ => ch.afterDelay t start))
  | busy {start due : Nat} : (eager → start = 0 ∧ due = (ch.deliver t).delay) → now ≤ due →
    Progress [.asked n .elapsed, .asked n (.sleep (ch.deliver t).delay)]
      (.asleep due (ch.afterDelay t start))
  | awake {start : Nat} : (eager → start = 0 ∧ now = (ch.deliver t).delay) →
    Progress [.asked n .elapsed, .asked n (.sleep (ch.deliver t).delay)]
      (.ready (ask .elapsed fun stop => done (ch.handover t start stop)))
  | through {start stop : Nat} : (eager → start = 0 ∧ stop = (ch.deliver t).delay ∧ now = stop) →
    Progress [.asked n .elapsed, .asked n (.sleep (ch.deliver t).delay), .asked n .elapsed]
      (.ready (done (ch.handover t start stop)))
  | gone {start stop : Nat} : (eager → start = 0 ∧ stop = (ch.deliver t).delay ∧ stop ≤ now) →
    Progress (ch.course t n (ch.handover t start stop)) (.ended (ch.handover t start stop))

namespace Progress

variable {eager ch t n now} {es : List (CrewEvent Handover)} {post : Post Handover}

theorem stands (h : Progress eager ch t n now es post) :
    (∃ p, post = .ready p) ∨ (∃ due p, post = .asleep due p) ∨ ∃ run, post = .ended run := by
  cases h with
  | busy _ _ => exact .inr (.inl ⟨_, _, rfl⟩)
  | gone _ => exact .inr (.inr ⟨_, rfl⟩)
  | _ => exact .inl ⟨_, rfl⟩

/-- A channel takes no lock. -/
theorem not_lock {r : Request} {next : r.Answer → Program Handover}
    (h : Progress eager ch t n now es (.ready (ask r next))) : r.isOfLock = false := by
  cases h <;> rfl

/-- A request that takes no time. -/
theorem goOn {w : World} {r : Request} {next : r.Answer → Program Handover}
    (h : Progress eager ch t n w.time es (.ready (ask r next)))
    (hnow : ¬ w.time < (World.surroundings.answer r w).2.time) :
    (World.surroundings.answer r w).2.time = w.time ∧
      Progress eager ch t n w.time (es ++ [.asked n r])
        (.ready (next (World.surroundings.answer r w).1)) := by
  cases h with
  | fresh hstart => exact ⟨rfl, .begun fun he => ⟨hstart he, hstart he⟩⟩
  | @begun start htimes =>
    change ¬ w.time < w.time + (ch.deliver t).delay at hnow
    refine ⟨?_, .awake fun he => ?_⟩
    · show w.time + (ch.deliver t).delay = w.time
      omega
    · obtain ⟨hstart, hzero⟩ := htimes he
      exact ⟨hstart, by omega⟩
  | awake htimes => exact ⟨rfl, .through fun he => ⟨(htimes he).1, (htimes he).2, rfl⟩⟩

/-- A request that takes time. -/
theorem sleep {w : World} {r : Request} {next : r.Answer → Program Handover}
    (h : Progress eager ch t n w.time es (.ready (ask r next)))
    (hlater : w.time < (World.surroundings.answer r w).2.time) :
    Progress eager ch t n w.time (es ++ [.asked n r])
      (.asleep (World.surroundings.answer r w).2.time (next (World.surroundings.answer r w).1)) := by
  cases h with
  | fresh _ => exact absurd hlater (Nat.lt_irrefl _)
  | begun htimes =>
    refine .busy (fun he => ?_) (Nat.le_of_lt hlater)
    obtain ⟨hstart, hzero⟩ := htimes he
    refine ⟨hstart, ?_⟩
    show w.time + (ch.deliver t).delay = (ch.deliver t).delay
    omega
  | awake _ => exact absurd hlater (Nat.lt_irrefl _)

theorem finish {h : Handover} (hdone : Progress eager ch t n now es (.ready (done h))) :
    (eager → h.delivered.time = now) ∧ Progress eager ch t n now (es ++ [.ended n h]) (.ended h) := by
  cases hdone with
  | through htimes =>
    refine ⟨fun he => (htimes he).2.2.symm, .gone fun he => ?_⟩
    obtain ⟨hstart, hstop, hnow⟩ := htimes he
    exact ⟨hstart, hstop, hnow.ge⟩

/-- Time passes until the next channel wakes. -/
theorem wake (h : Progress eager ch t n now es post) {due : Nat} (hle : now ≤ due)
    (hready : eager → ∀ p, post ≠ .ready p) (hdue : ∀ d p, post = .asleep d p → due ≤ d) :
    Progress eager ch t n due es (post.wake due) := by
  cases h with
  | fresh _ => exact .fresh fun he => absurd rfl (hready he _)
  | begun _ => exact .begun fun he => absurd rfl (hready he _)
  | @busy start d htimes _ =>
    show Progress _ _ _ _ _ _ (if d = due then _ else _)
    split
    · rename_i hd
      exact .awake fun he => ⟨(htimes he).1, hd.symm.trans (htimes he).2⟩
    · exact .busy htimes (hdue d _ rfl)
  | awake _ => exact .awake fun he => absurd rfl (hready he _)
  | through _ => exact .through fun he => absurd rfl (hready he _)
  | gone htimes => exact .gone fun he => ⟨(htimes he).1, (htimes he).2.1, (htimes he).2.2.trans hle⟩

/-- Who sleeps has not overslept. -/
theorem le_due {due : Nat} {p : Program Handover} (h : Progress eager ch t n now es (.asleep due p)) :
    now ≤ due ∧ (eager → due = (ch.deliver t).delay) := by
  cases h with
  | busy htimes hle => exact ⟨hle, fun he => (htimes he).2⟩

/-- What has come about with a channel is a part of its course. -/
theorem within_course (h : Progress eager ch t n now es post) :
    ∃ start stop, es <+: ch.course t n (ch.handover t start stop) := by
  cases h with
  | fresh _ => exact ⟨0, 0, List.nil_prefix⟩
  | @begun start _ => exact ⟨start, 0, _, rfl⟩
  | @busy start _ _ _ => exact ⟨start, 0, _, rfl⟩
  | @awake start _ => exact ⟨start, 0, _, rfl⟩
  | @through start stop _ => exact ⟨start, stop, _, rfl⟩
  | @gone start stop _ => exact ⟨start, stop, List.prefix_refl _⟩

/-- A channel that has ended has gone through its course. -/
theorem of_ended {h : Handover} (hended : Progress eager ch t n now es (.ended h)) :
    es = ch.course t n h ∧ ∃ start stop, h = ch.handover t start stop ∧
      (eager → start = 0 ∧ stop = (ch.deliver t).delay ∧ stop ≤ now) := by
  cases hended with
  | gone htimes => exact ⟨rfl, _, _, rfl, htimes⟩

end Progress

end Progress

/-! ## All channels -/

section Underway

variable (eager : Prop) (channels : List Channel) (t : Task)

/-- All channels are on their way. No more time has passed than the longest of them takes, and those that
have ended have done so in the order of the times. -/
structure Underway (log : List (CrewEvent Handover)) (F : Floor World Handover) : Prop where
  fits (i : Nat) (ch : Channel) : channels[i]? = some ch →
    Progress eager ch t i F.state.time (eventsOf i log) (F.post i)
  absent (i : Nat) : channels[i]? = none → eventsOf i log = [] ∧ F.post i = .absent
  time (bound : Nat) : eager → (∀ ch ∈ channels, (ch.deliver t).delay ≤ bound) →
    F.state.time ≤ bound
  inOrder : eager →
    (endings log).Pairwise fun e e' => e.2.delivered.time ≤ e'.2.delivered.time
  past : eager → ∀ e ∈ endings log, e.2.delivered.time ≤ F.state.time

variable {eager channels t} {log events : List (CrewEvent Handover)} {F F' : Floor World Handover}

namespace Underway

variable (h : Underway eager channels t log F)

include h

theorem channel_of_post {i : Nat} (hpost : F.post i ≠ .absent) : ∃ ch, channels[i]? = some ch := by
  cases hch : channels[i]? with
  | none => exact absurd (h.absent i hch).2 hpost
  | some ch => exact ⟨ch, rfl⟩

/-- A channel that stands somewhere is on its way there. -/
theorem fits_of_post {i : Nat} {post : Post Handover} (hpost : F.post i = post) (hne : post ≠ .absent) :
    ∃ ch, channels[i]? = some ch ∧ Progress eager ch t i F.state.time (eventsOf i log) post := by
  obtain ⟨ch, hch⟩ := h.channel_of_post (hpost ▸ hne)
  exact ⟨ch, hch, hpost ▸ h.fits i ch hch⟩

/-- One channel goes on, and no time passes. -/
theorem moved {n : Nat} {ch : Channel} (hch : channels[n]? = some ch)
    (hnumbers : ∀ e ∈ events, e.number = n) (htime : F'.state.time = F.state.time)
    (hfits : Progress eager ch t n F.state.time (eventsOf n log ++ events) (F'.post n))
    (hothers : ∀ i, i ≠ n → F'.post i = F.post i)
    (hendings : eager → ∀ e ∈ endings events, e.2.delivered.time = F.state.time) :
    Underway eager channels t (log ++ events) F' where
  fits i ch' hch' := by
    by_cases hi : i = n
    · subst hi
      obtain rfl := Option.some.inj (hch.symm.trans hch')
      have hevents : eventsOf i events = events :=
        List.filter_eq_self.mpr fun e he => by simp [hnumbers e he]
      rw [Crew.eventsOf_append, hevents, htime]
      exact hfits
    · rw [Crew.eventsOf_append, Crew.eventsOf_of_ne fun e he hn => hi (hn.symm.trans (hnumbers e he)),
        List.append_nil, htime, hothers i hi]
      exact h.fits i ch' hch'
  absent i hi := by
    have hne : i ≠ n := by
      rintro rfl
      rw [hch] at hi
      cases hi
    rw [Crew.eventsOf_append, Crew.eventsOf_of_ne fun e he hn => hne (hn.symm.trans (hnumbers e he)),
      List.append_nil, hothers i hne]
    exact h.absent i hi
  time bound he hbound := htime ▸ h.time bound he hbound
  inOrder he := by
    rw [Crew.endings_append]
    refine List.pairwise_append.mpr ⟨h.inOrder he, ?_, fun e hmem e' hmem' => ?_⟩
    · refine List.pairwise_iff_forall_sublist.mpr fun {e e'} hsub => ?_
      rw [hendings he e (hsub.subset (by simp)), hendings he e' (hsub.subset (by simp))]
    · rw [hendings he e' hmem']
      exact h.past he e hmem
  past he e hmem := by
    rw [htime]
    rcases List.mem_append.mp (Crew.endings_append .. ▸ hmem) with hmem | hmem
    · exact h.past he e hmem
    · exact (hendings he e hmem).le

/-- Time passes until the next channel wakes. -/
theorem wake {due n : Nat} {p : Program Handover} (hready : eager → ∀ i p, F.post i ≠ .ready p)
    (hpost : F.post n = .asleep due p) (hdue : ∀ i d p, F.post i = .asleep d p → due ≤ d) :
    Underway eager channels t log
      { F with state := World.surroundings.atTime due F.state, post := fun i => (F.post i).wake due } := by
  obtain ⟨ch, hch, hfits⟩ := h.fits_of_post hpost (by simp)
  obtain ⟨hle, hdelay⟩ := hfits.le_due
  refine ⟨fun i ch' hch' => ?_, fun i hi => ?_, fun bound he hbound => ?_, h.inOrder,
    fun he e hmem => (h.past he e hmem).trans hle⟩
  · exact (h.fits i ch' hch').wake hle (fun he => hready he i) (hdue i)
  · obtain ⟨hnone, habsent⟩ := h.absent i hi
    refine ⟨hnone, ?_⟩
    show (F.post i).wake due = _
    rw [habsent]
    rfl
  · show due ≤ bound
    rw [hdelay he]
    exact hbound ch (List.mem_of_getElem? hch)

/-- **Every step keeps all channels on their way.** -/
theorem step (hstep : F.Step World.surroundings eager events F') :
    Underway eager channels t (log ++ events) F' := by
  -- A channel that asks for something does not ask for a lock.
  have hnolock : ∀ {n : Nat} {r : Request} {next : r.Answer → Program Handover},
      F.post n = .ready (ask r next) → r.isOfLock = false := by
    intro n r next hpost
    obtain ⟨ch, -, hfits⟩ := h.fits_of_post hpost (by simp)
    exact hfits.not_lock
  cases hstep with
  | @finish n a hpost =>
    obtain ⟨ch, hch, hfits⟩ := h.fits_of_post hpost (by simp)
    obtain ⟨hnow, hended⟩ := hfits.finish
    refine h.moved hch (by simp [CrewEvent.number]) rfl ?_ (fun i hi => if_neg hi) fun he => ?_
    · rwa [Floor.post_put, if_pos rfl]
    · simpa [endings, CrewEvent.ending?] using hnow he
  | @goOn n r next hpost hr htime =>
    obtain ⟨ch, hch, hfits⟩ := h.fits_of_post hpost (by simp)
    obtain ⟨hsame, hfits⟩ := hfits.goOn htime
    refine h.moved hch (by simp [CrewEvent.number]) hsame ?_ (fun i hi => if_neg hi) ?_
    · rwa [Floor.post_put, if_pos rfl]
    · simp [endings, CrewEvent.ending?]
  | @sleep n r next hpost hr htime =>
    obtain ⟨ch, hch, hfits⟩ := h.fits_of_post hpost (by simp)
    refine h.moved hch (by simp [CrewEvent.number]) rfl ?_ (fun i hi => if_neg hi) ?_
    · rw [Floor.post_put, if_pos rfl]
      exact hfits.sleep htime
    · simp [endings, CrewEvent.ending?]
  | wake hready hpost hdue =>
    rw [List.append_nil]
    exact h.wake hready hpost hdue
  | enter hpost _ => cases hnolock hpost
  | wait hpost _ => cases hnolock hpost
  | handOver hpost _ _ => cases hnolock hpost
  | letGo hpost _ => cases hnolock hpost

end Underway

theorem underway_start (w : World) : Underway eager channels t [] (fanOut channels t w).floor where
  fits i ch hch := by
    rw [fanOut, Crew.post_ofPrograms, List.getElem?_map, hch]
    exact .fresh fun _ => rfl
  absent i hi := by
    refine ⟨rfl, ?_⟩
    rw [fanOut, Crew.post_ofPrograms, List.getElem?_map, hi]
    rfl
  time bound _ _ := Nat.zero_le bound
  inOrder _ := .nil
  past _ e he := by cases he

/-- **All channels are on their way in every interleaving.** -/
theorem underway_of_reaches {w : World} {c : Crew World Handover}
    (h : Crew.Reaches World.surroundings eager (fanOut channels t w) log c) :
    c.Tidy ∧ Underway eager channels t log c.floor :=
  h.invariant (Crew.tidy_ofPrograms _ _) (underway_start w) fun _ _ _ _ hunderway hstep =>
    hunderway.step hstep

end Underway

end DeployWatch
