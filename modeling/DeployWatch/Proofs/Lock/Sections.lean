import DeployWatch.Proofs.Lock.Timetable

/-!
# Sections at the same time

* `StageFits`, `StageMoves`: a section is at a stage, or comes to another one;
* `Running`: what holds of all sections at any time;
* `Running.stopped_before`, `Running.next`: who has had a lock before has stopped, and steps in which some
  sections move;
* `Running.freeAgain_of_stopped`: a lock is free again when the timetable says so;
* **`Running.step`**: every step keeps all sections at their stages, with a lemma for each kind of step.
-/

namespace DeployWatch

open Crew (Orderly askers holders leavers eventsOf)
open Program (ask done)
open Simulation (World)

/-! ## Sections at their stages -/

/-- A section is at a stage: so much has come about with it, there it stands, and the times fit. -/
structure StageFits (eager : Prop) (s : Section) (start i now : Nat)
    (es : List (CrewEvent SectionRun)) (post : Post SectionRun) (st : SectionStage) : Prop where
  events : es = st.events s i
  post : post = st.post s
  timely : st.Timely eager s start now

/-- A section comes to another stage; if it starts, that is now. -/
structure StageMoves (eager : Prop) (s : Section) (start i now : Nat)
    (es : List (CrewEvent SectionRun)) (post : Post SectionRun) (st st' : SectionStage) : Prop where
  fits : StageFits eager s start i now es post st'
  starts (v : Nat) : st'.start? = some v → st.start? = some v ∨ st = .entered ∧ v = now
  stops (e : Nat) : st.stop? = some e → st'.stop? = some e

theorem StageFits.go {eager : Prop} {s : Section} {start i : Nat} {w : World}
    {es : List (CrewEvent SectionRun)} {post post' : Post SectionRun} {st : SectionStage}
    (h : StageFits eager s start i w.time es post st) {r : Request}
    {next : r.Answer → Program SectionRun} (hpost : post = .ready (.ask r next))
    (hr : r.isOfLock = false) (hpost' : (st.go s w.time).post s = post') :
    StageMoves eager s start i w.time (es ++ eventsOf i [.asked i r]) post' st (st.go s w.time) where
  fits := by
    have hready := h.post.symm.trans hpost
    obtain ⟨hevents, -⟩ := SectionStage.go_spec (n := i) w hready hr
    refine ⟨?_, hpost'.symm, h.timely.go hready hr⟩
    rw [hevents, h.events]
    simp [eventsOf, CrewEvent.number]
  starts _ := SectionStage.start?_go
  stops _ := SectionStage.stop?_go

variable {eager : Prop} {sections : List Section} {log events : List (CrewEvent SectionRun)}
  {F F' : Floor World SectionRun} {stage stage' : Nat → SectionStage}

/-- Every section is at a stage. Callers ask in the order in which they arrive, a lock is free when the
timetable says so, and who has had a lock before has stopped before the next one starts. The table has
the keys that were asked for. -/
structure Running (eager : Prop) (sections : List Section) (log : List (CrewEvent SectionRun))
    (F : Floor World SectionRun) (stage : Nat → SectionStage) : Prop where
  fits (i : Nat) (s : Section) : sections[i]? = some s → StageFits eager s (startOf sections s i log) i
    F.state.time (eventsOf i log) (F.post i) (stage i)
  absent (i : Nat) : sections[i]? = none → eventsOf i log = [] ∧ F.post i = .absent
  arrivals (key : String) : eager → (askers key log).Pairwise fun i j => ∀ s s',
    sections[i]? = some s → sections[j]? = some s' → s.arrival ≤ s'.arrival
  free (key : String) : eager → F.queue key = none →
    freeAgain (sectionsAt sections (holders key log)) ≤ F.state.time
  apart (i : Nat) (s : Section) (v : Nat) : sections[i]? = some s → (stage i).start? = some v →
    ∀ j ∈ predecessors s.key i log, ∃ e, (stage j).stop? = some e ∧ e ≤ v
  keys : F.state.keys = (keysAsked log).eraseDups

namespace Running

variable (h : Running eager sections log F stage)

include h

theorem section_of_post {i : Nat} (hpost : F.post i ≠ .absent) : ∃ s, sections[i]? = some s := by
  cases hs : sections[i]? with
  | none => exact absurd (h.absent i hs).2 hpost
  | some s => exact ⟨s, rfl⟩

theorem section_of_event {i : Nat} {e : CrewEvent SectionRun} (he : e ∈ eventsOf i log) :
    ∃ s, sections[i]? = some s := by
  cases hs : sections[i]? with
  | none =>
    rw [(h.absent i hs).1] at he
    cases he
  | some s => exact ⟨s, rfl⟩

section Members

variable {i : Nat} {s : Section} {key : String} (hs : sections[i]? = some s)

include hs

theorem mem_askers_iff : i ∈ askers key log ↔ key = s.key ∧ 2 ≤ (stage i).length := by
  rw [Crew.mem_askers_iff, Crew.mem_lockEventsOf_iff, (h.fits i s hs).events,
    SectionStage.asked_mem_events_iff]
  simp [CrewEvent.isOfLock, Request.isOfLock]

theorem mem_holders_iff : i ∈ holders key log ↔ key = s.key ∧ 3 ≤ (stage i).length := by
  rw [Crew.mem_holders_iff, Crew.mem_lockEventsOf_iff, (h.fits i s hs).events,
    SectionStage.granted_mem_events_iff]
  simp [CrewEvent.isOfLock]

theorem mem_leavers_iff : i ∈ leavers key log ↔ key = s.key ∧ 8 ≤ (stage i).length := by
  rw [Crew.mem_leavers_iff, Crew.mem_lockEventsOf_iff, (h.fits i s hs).events,
    SectionStage.released_mem_events_iff]
  simp [CrewEvent.isOfLock]

end Members

theorem section_of_leaver {i : Nat} {key : String} (hi : i ∈ leavers key log) :
    ∃ s, sections[i]? = some s := by
  rw [Crew.mem_leavers_iff, Crew.mem_lockEventsOf_iff] at hi
  exact h.section_of_event hi.2

/-- Who has had a lock before the one who has it has stopped. -/
theorem stopped_before (ho : Orderly log F) {i : Nat} {s : Section} (hs : sections[i]? = some s)
    (hi : stage i = .entered) {j : Nat} (hj : j ∈ predecessors s.key i log) :
    ∃ e, (stage j).stop? = some e ∧ e ≤ F.state.time := by
  have hgot : i ∈ holders s.key log := (h.mem_holders_iff hs).mpr ⟨rfl, by simp [hi, SectionStage.length]⟩
  have hkept : i ∉ leavers s.key log := by
    rw [h.mem_leavers_iff hs, hi]
    simp [SectionStage.length]
  obtain ⟨-, hholders⟩ := (ho.line s.key).eq_append_of_mem hgot hkept
  rw [predecessors_eq hholders hkept] at hj
  obtain ⟨s', hs'⟩ := h.section_of_leaver hj
  have hlength := ((h.mem_leavers_iff hs').mp hj).2
  have htimely := (h.fits j s' hs').timely
  cases hst : stage j with
  | left v e => exact ⟨e, rfl, (hst ▸ htimely).stop_le rfl⟩
  | gone v e => exact ⟨e, rfl, (hst ▸ htimely).stop_le rfl⟩
  | _ => simp [hst, SectionStage.length] at hlength

/-- A step in which some sections come to other stages, and no time passes. -/
theorem next (ho : Orderly log F) (htime : F'.state.time = F.state.time)
    (hmoves : ∀ i, (stage' i = stage i ∧ F'.post i = F.post i ∧ ∀ e ∈ events, e.number ≠ i) ∨
      ∃ s, sections[i]? = some s ∧ StageMoves eager s (startOf sections s i (log ++ events)) i
        F'.state.time (eventsOf i (log ++ events)) (F'.post i) (stage i) (stage' i))
    (harrivals : ∀ key, eager → (askers key (log ++ events)).Pairwise fun i j => ∀ s s',
      sections[i]? = some s → sections[j]? = some s' → s.arrival ≤ s'.arrival)
    (hfree : ∀ key, eager → F'.queue key = none →
      freeAgain (sectionsAt sections (holders key (log ++ events))) ≤ F'.state.time)
    (hkeys : F'.state.keys = (keysAsked (log ++ events)).eraseDups) :
    Running eager sections (log ++ events) F' stage' where
  fits i s hs := by
    obtain ⟨hstage, hpost, hne⟩ | ⟨s', hs', hmove⟩ := hmoves i
    · have hfits := h.fits i s hs
      rw [hstage, hpost, htime, Crew.eventsOf_append, Crew.eventsOf_of_ne hne, List.append_nil]
      refine ⟨hfits.events, hfits.post, hfits.timely.of_start fun hlength => ?_⟩
      exact startOf_append sections ((h.mem_holders_iff hs).mpr ⟨rfl, hlength⟩)
    · rw [hs] at hs'
      rw [Option.some.inj hs']
      exact hmove.fits
  absent i hi := by
    obtain ⟨-, hpost, hne⟩ | ⟨s', hs', -⟩ := hmoves i
    · rw [hpost, Crew.eventsOf_append, Crew.eventsOf_of_ne hne, List.append_nil]
      exact h.absent i hi
    · rw [hi] at hs'
      cases hs'
  arrivals := harrivals
  free := hfree
  apart i s v hs hv j hj := by
    have hkept : ∀ e, (stage j).stop? = some e → (stage' j).stop? = some e := by
      intro e he
      obtain ⟨hstage, -, -⟩ | ⟨_, _, hmove⟩ := hmoves j
      · rw [hstage]
        exact he
      · exact hmove.stops e he
    have hstarted : (stage i).start? = some v ∨ stage i = .entered ∧ v = F.state.time := by
      obtain ⟨hstage, -, -⟩ | ⟨_, _, hmove⟩ := hmoves i
      · exact .inl (hstage ▸ hv)
      · exact htime ▸ hmove.starts v hv
    have hgot : i ∈ holders s.key log := by
      refine (h.mem_holders_iff hs).mpr ⟨rfl, ?_⟩
      rcases hstarted with hv | ⟨hi, -⟩
      · cases hst : stage i <;> simp [hst, SectionStage.start?, SectionStage.length] at hv ⊢
      · simp [hi, SectionStage.length]
    rw [predecessors_append hgot] at hj
    rcases hstarted with hv | ⟨hi, rfl⟩
    · obtain ⟨e, he, hle⟩ := h.apart i s v hs hv j hj
      exact ⟨e, hkept e he, hle⟩
    · obtain ⟨e, he, hle⟩ := h.stopped_before ho hs hi hj
      exact ⟨e, hkept e he, hle⟩
  keys := hkeys

theorem next_one (ho : Orderly log F) (htime : F'.state.time = F.state.time) {n : Nat} {s : Section}
    (hs : sections[n]? = some s) {st' : SectionStage}
    (hmove : StageMoves eager s (startOf sections s n (log ++ events)) n F'.state.time
      (eventsOf n (log ++ events)) (F'.post n) (stage n) st')
    (hothers : ∀ i, i ≠ n → F'.post i = F.post i) (hevents : ∀ e ∈ events, e.number = n)
    (harrivals : ∀ key, eager → (askers key (log ++ events)).Pairwise fun i j => ∀ s s',
      sections[i]? = some s → sections[j]? = some s' → s.arrival ≤ s'.arrival)
    (hfree : ∀ key, eager → F'.queue key = none →
      freeAgain (sectionsAt sections (holders key (log ++ events))) ≤ F'.state.time)
    (hkeys : F'.state.keys = (keysAsked (log ++ events)).eraseDups) :
    Running eager sections (log ++ events) F' fun i => if i = n then st' else stage i := by
  refine h.next ho htime (fun i => ?_) harrivals hfree hkeys
  by_cases hi : i = n
  · rw [if_pos hi, hi]
    exact .inr ⟨s, hs, hmove⟩
  · rw [if_neg hi]
    exact .inl ⟨rfl, hothers i hi, fun e he hn => hi (hn.symm.trans (hevents e he))⟩

theorem next_of_not_lock (ho : Orderly log F) (hlock : ∀ e ∈ events, e.isOfLock = false)
    (htime : F'.state.time = F.state.time) (hkeys : F'.state.keys = F.state.keys)
    (hqueue : F'.queue = F.queue) {n : Nat} {s : Section} (hs : sections[n]? = some s)
    {st' : SectionStage}
    (hmove : StageMoves eager s (startOf sections s n log) n F'.state.time
      (eventsOf n log ++ eventsOf n events) (F'.post n) (stage n) st')
    (hothers : ∀ i, i ≠ n → F'.post i = F.post i) (hevents : ∀ e ∈ events, e.number = n) :
    Running eager sections (log ++ events) F' fun i => if i = n then st' else stage i := by
  have hholders : ∀ key, holders key (log ++ events) = holders key log := by
    intro key
    rw [Crew.holders_append, Crew.holders_of_not_lock hlock, List.append_nil]
  refine h.next_one ho htime hs ?_ hothers hevents (fun key he => ?_) (fun key he hfree => ?_) ?_
  · have hstart : startOf sections s n (log ++ events) = startOf sections s n log := by
      simp only [startOf, predecessors, hholders]
    rw [hstart, Crew.eventsOf_append]
    exact hmove
  · rw [Crew.askers_append, Crew.askers_of_not_lock hlock, List.append_nil]
    exact h.arrivals key he
  · rw [hholders, htime]
    exact h.free key he (hqueue ▸ hfree)
  · have hnone : keysAsked events = [] := by
      refine List.filterMap_eq_nil_iff.mpr fun e he => ?_
      have hnot := hlock e he
      split
      · cases hnot
      · rfl
    rw [keysAsked_append, hnone, List.append_nil, hkeys]
    exact h.keys

theorem arrivals_append {n : Nat} {s : Section} (hs : sections[n]? = some s)
    (hstage : stage n = .arrived) (he : eager) (key : String) :
    (askers key log ++ [n]).Pairwise fun i j => ∀ s s',
      sections[i]? = some s → sections[j]? = some s' → s.arrival ≤ s'.arrival := by
  refine List.pairwise_append.mpr ⟨h.arrivals key he, List.pairwise_singleton _ _, ?_⟩
  intro i hi j hj s₁ s₂ hs₁ hs₂
  rw [List.mem_singleton.mp hj, hs] at hs₂
  have harrived : F.state.time = s.arrival := by
    have htimely := (h.fits n s hs).timely
    rw [hstage] at htimely
    exact htimely he
  have hearlier := (h.fits i s₁ hs₁).timely.arrival_le ((h.mem_askers_iff hs₁).mp hi).2 he
    (Nat.le_max_left _ _)
  rw [← Option.some.inj hs₂]
  omega

/-- Others are as free as before when one lock is held. -/
theorem free_of_held {k : String} (key : String) (he : eager) (hfree : F'.queue k = none)
    (htime : F'.state.time = F.state.time) (hheld : F'.queue key ≠ none)
    (hothers : ∀ k, k ≠ key → F'.queue k = F.queue k ∧ holders k events = []) :
    freeAgain (sectionsAt sections (holders k (log ++ events))) ≤ F'.state.time := by
  have hk : k ≠ key := by
    rintro rfl
    exact hheld hfree
  obtain ⟨hqueue, hholders⟩ := hothers k hk
  rw [Crew.holders_append, hholders, List.append_nil, htime]
  exact h.free k he (hqueue ▸ hfree)

/-- A lock is free again when the one who has it stops. -/
theorem freeAgain_of_stopped {n v e : Nat} {s : Section} (hs : sections[n]? = some s)
    (hstage : stage n = .stopped v e) (he : eager)
    (hholders : holders s.key log = leavers s.key log ++ [n]) :
    freeAgain (sectionsAt sections (holders s.key log)) = F.state.time := by
  have hkept : n ∉ leavers s.key log := by
    rw [h.mem_leavers_iff hs, hstage]
    simp [SectionStage.length]
  have htimely := (h.fits n s hs).timely
  rw [hstage] at htimely
  obtain ⟨-, hstop, hnow⟩ := htimely.2 he
  rw [startOf, predecessors_eq hholders hkept] at hstop
  rw [hholders, sectionsAt_append hs, freeAgain_append, hnow, hstop]

theorem finish (ho : Orderly log F) {n : Nat} {a : SectionRun} (hpost : F.post n = .ready (.done a)) :
    ∃ stage', Running eager sections (log ++ [.ended n a]) (F.put n (.ended a)) stage' := by
  obtain ⟨s, hs⟩ := h.section_of_post (i := n) (by simp [hpost])
  have hfits := h.fits n s hs
  obtain ⟨v, e, hstage, rfl⟩ := SectionStage.post_eq_done (hfits.post.symm.trans hpost)
  rw [hstage] at hfits
  refine ⟨fun i => if i = n then .gone v e else stage i,
    h.next_of_not_lock ho ?_ ?_ ?_ ?_ hs ⟨⟨?_, ?_, ?_⟩, ?_, ?_⟩ ?_ ?_⟩
  · simp [CrewEvent.isOfLock]
  · rfl
  · rfl
  · rfl
  · rw [hfits.events]
    simp [Crew.eventsOf, CrewEvent.number, SectionStage.events, Section.course,
      SectionStage.length, SectionStage.run, SectionStage.start?, SectionStage.stop?]
  · exact if_pos rfl
  · exact hfits.timely
  · exact fun v' hv' => .inl (hstage ▸ hv')
  · exact fun e' he' => by rwa [hstage] at he'
  · exact fun i hi => if_neg hi
  · simp [CrewEvent.number]

theorem goOn (ho : Orderly log F) {n : Nat} {r : Request} {next : r.Answer → Program SectionRun}
    (hpost : F.post n = .ready (.ask r next)) (hr : r.isOfLock = false)
    (htime : ¬ F.state.time < (World.answer r F.state).2.time) :
    ∃ stage', Running eager sections (log ++ [.asked n r]) ((F.within (World.answer r F.state).2).put n
      (.ready (next (World.answer r F.state).1))) stage' := by
  obtain ⟨s, hs⟩ := h.section_of_post (i := n) (by simp [hpost])
  have hfits := h.fits n s hs
  obtain ⟨-, hkeys, -, hgo⟩ := SectionStage.go_spec (n := n) F.state (hfits.post.symm.trans hpost) hr
  obtain ⟨hsame, hpost'⟩ := hgo htime
  refine ⟨fun i => if i = n then (stage n).go s F.state.time else stage i,
    h.next_of_not_lock ho ?_ ?_ ?_ ?_ hs ?_ ?_ ?_⟩
  · simp [CrewEvent.isOfLock, hr]
  · exact hsame
  · exact hkeys
  · rfl
  · show StageMoves eager s _ n (World.answer r F.state).2.time _ _ _ _
    rw [hsame]
    exact hfits.go hpost hr (hpost'.trans (if_pos rfl).symm)
  · exact fun i hi => if_neg hi
  · simp [CrewEvent.number]

theorem sleep (ho : Orderly log F) {n : Nat} {r : Request} {next : r.Answer → Program SectionRun}
    (hpost : F.post n = .ready (.ask r next)) (hr : r.isOfLock = false)
    (htime : F.state.time < (World.answer r F.state).2.time) :
    ∃ stage', Running eager sections (log ++ [.asked n r])
      ((F.within { (World.answer r F.state).2 with time := F.state.time }).put n
        (.asleep (World.answer r F.state).2.time (next (World.answer r F.state).1))) stage' := by
  obtain ⟨s, hs⟩ := h.section_of_post (i := n) (by simp [hpost])
  have hfits := h.fits n s hs
  obtain ⟨-, hkeys, hgo, -⟩ := SectionStage.go_spec (n := n) F.state (hfits.post.symm.trans hpost) hr
  refine ⟨fun i => if i = n then (stage n).go s F.state.time else stage i,
    h.next_of_not_lock ho ?_ ?_ ?_ ?_ hs ?_ ?_ ?_⟩
  · simp [CrewEvent.isOfLock, hr]
  · rfl
  · exact hkeys
  · rfl
  · exact hfits.go hpost hr ((hgo htime).trans (if_pos rfl).symm)
  · exact fun i hi => if_neg hi
  · simp [CrewEvent.number]

theorem wake {due n : Nat} {p : Program SectionRun} (hready : eager → ∀ i p, F.post i ≠ .ready p)
    (hpost : F.post n = .asleep due p) (hdue : ∀ i d p, F.post i = .asleep d p → due ≤ d) :
    ∃ stage', Running eager sections log
      ⟨{ F.state with time := due }, fun i => (F.post i).wake due, F.queue⟩ stage' := by
  obtain ⟨s, hs⟩ := h.section_of_post (i := n) (by simp [hpost])
  have hfits := h.fits n s hs
  have hnow : F.state.time ≤ due := hfits.timely.le_due (hfits.post.symm.trans hpost)
  refine ⟨fun i => (stage i).wake due, fun i s' hs' => ?_, fun i hi => ?_, h.arrivals,
    fun key he hfree => ?_, fun i s' v hs' hv j hj => ?_, h.keys⟩
  · have hfits' := h.fits i s' hs'
    refine ⟨?_, ?_, hfits'.timely.wake hnow (fun he p' hp' => ?_) fun d p' hp' => ?_⟩
    · rw [SectionStage.events_wake]
      exact hfits'.events
    · rw [SectionStage.post_wake, ← hfits'.post]
    · exact hready he i p' (hfits'.post.trans hp')
    · exact hdue i d p' (hfits'.post.trans hp')
  · obtain ⟨hes, habsent⟩ := h.absent i hi
    refine ⟨hes, ?_⟩
    show (F.post i).wake due = .absent
    rw [habsent]
    rfl
  · exact Nat.le_trans (h.free key he hfree) hnow
  · rw [SectionStage.start?_wake] at hv
    rw [SectionStage.stop?_wake]
    exact h.apart i s' v hs' hv j hj

theorem enter {n : Nat} {key : String} {next : Unit → Program SectionRun}
    (ho : Orderly log F) (hpost : F.post n = .ready (.ask (.acquire key) next))
    (hqueue : F.queue key = none) :
    ∃ stage', Running eager sections (log ++ [.asked n (.acquire key), .granted n key])
      (((F.within (F.state.noteKey key)).put n (.ready (next ()))).line key (some [])) stage' := by
  obtain ⟨s, hs⟩ := h.section_of_post (i := n) (by simp [hpost])
  have hfits := h.fits n s hs
  obtain ⟨hstage, rfl, hnext⟩ := SectionStage.post_eq_acquire (hfits.post.symm.trans hpost)
  rw [hstage] at hfits
  obtain ⟨hkeys, htime⟩ := keys_noteKey h.keys s.key
  have hnot : n ∉ holders s.key log := by
    rw [h.mem_holders_iff hs, hstage]
    simp [SectionStage.length]
  have hholders : holders s.key (log ++ [.asked n (.acquire s.key), .granted n s.key]) =
      holders s.key log ++ [n] := by
    simp [holders, CrewEvent.holder?]
  refine ⟨fun i => if i = n then .entered else stage i,
    h.next_one ho ?_ hs ⟨⟨?_, ?_, ?_⟩, ?_, ?_⟩ ?_ ?_ (fun k he => ?_) (fun k he hfree => ?_) ?_⟩
  · exact htime
  · rw [Crew.eventsOf_append, hfits.events]
    simp [eventsOf, CrewEvent.number, SectionStage.events, Section.course, SectionStage.length]
  · rw [Floor.post_line, Floor.post_put, if_pos rfl, hnext]
    rfl
  · -- The lock has been free for some time, and the caller has just arrived.
    intro he
    have hfree := h.free s.key he hqueue
    have harrived : F.state.time = s.arrival := hfits.timely he
    rw [startOf, predecessors_eq hholders hnot, Nat.max_eq_left (harrived ▸ hfree), ← harrived]
    exact htime
  · exact fun v hv => by cases hv
  · exact fun e he => by rw [hstage] at he; cases he
  · exact fun i hi => if_neg hi
  · simp [CrewEvent.number]
  · by_cases hk : k = s.key
    · rw [hk]
      simpa [askers, CrewEvent.asker?] using h.arrivals_append hs hstage he s.key
    · simpa [askers, CrewEvent.asker?, hk] using h.arrivals k he
  · refine h.free_of_held s.key he hfree htime (by simp) fun k hk => ?_
    simp [hk, holders, CrewEvent.holder?]
  · rw [keysAsked_append]
    exact hkeys

theorem wait {n : Nat} {key : String} {next : Unit → Program SectionRun} (q : List Nat)
    (ho : Orderly log F) (hpost : F.post n = .ready (.ask (.acquire key) next)) :
    ∃ stage', Running eager sections (log ++ [.asked n (.acquire key)])
      (((F.within (F.state.noteKey key)).put n (.queued key (next ()))).line key (some q)) stage' := by
  obtain ⟨s, hs⟩ := h.section_of_post (i := n) (by simp [hpost])
  have hfits := h.fits n s hs
  obtain ⟨hstage, rfl, hnext⟩ := SectionStage.post_eq_acquire (hfits.post.symm.trans hpost)
  rw [hstage] at hfits
  obtain ⟨hkeys, htime⟩ := keys_noteKey h.keys s.key
  refine ⟨fun i => if i = n then .waiting else stage i,
    h.next_one ho ?_ hs ⟨⟨?_, ?_, ?_⟩, ?_, ?_⟩ ?_ ?_ (fun k he => ?_) (fun k he hfree => ?_) ?_⟩
  · exact htime
  · rw [Crew.eventsOf_append, hfits.events]
    simp [eventsOf, CrewEvent.number, SectionStage.events, Section.course, SectionStage.length]
  · rw [Floor.post_line, Floor.post_put, if_pos rfl, hnext]
    rfl
  · intro he
    have harrived : F.state.time = s.arrival := hfits.timely he
    exact Nat.le_of_eq (htime.trans harrived).symm
  · exact fun v hv => by cases hv
  · exact fun e he => by rw [hstage] at he; cases he
  · exact fun i hi => if_neg hi
  · simp [CrewEvent.number]
  · by_cases hk : k = s.key
    · rw [hk]
      simpa [askers, CrewEvent.asker?] using h.arrivals_append hs hstage he s.key
    · simpa [askers, CrewEvent.asker?, hk] using h.arrivals k he
  · refine h.free_of_held s.key he hfree htime (by simp) fun k hk => ?_
    simp [hk, holders, CrewEvent.holder?]
  · rw [keysAsked_append]
    exact hkeys

theorem handOver {n first : Nat} {key : String} {next : Unit → Program SectionRun} (q : List Nat)
    {p : Program SectionRun} (ho : Orderly log F)
    (hpost : F.post n = .ready (.ask (.release key) next)) (hfirst : F.post first = .queued key p) :
    ∃ stage', Running eager sections
      (log ++ [.asked n (.release key), .released n key, .granted first key])
      (((F.put n (.ready (next ()))).put first (.ready p)).line key (some q)) stage' := by
  obtain ⟨s, hs⟩ := h.section_of_post (i := n) (by simp [hpost])
  obtain ⟨s', hs'⟩ := h.section_of_post (i := first) (by simp [hfirst])
  have hfits := h.fits n s hs
  have hfits' := h.fits first s' hs'
  obtain ⟨v, e, hstage, rfl, hnext⟩ := SectionStage.post_eq_release (hfits.post.symm.trans hpost)
  obtain ⟨hstage', hkey, rfl⟩ := SectionStage.post_eq_queued (hfits'.post.symm.trans hfirst)
  rw [hstage] at hfits
  rw [hstage'] at hfits'
  obtain ⟨-, -, -, hholders⟩ := ho.release hpost
  have hne : n ≠ first := by
    rintro rfl
    rw [hpost] at hfirst
    cases hfirst
  have hnot : first ∉ holders s.key log := by
    rw [h.mem_holders_iff hs', hstage']
    simp [SectionStage.length]
  have hholders' : holders s.key (log ++ [.asked n (.release s.key), .released n s.key,
      .granted first s.key]) = holders s.key log ++ [first] := by
    simp [holders, CrewEvent.holder?]
  have hgot : n ∈ holders s.key log := hholders ▸ List.mem_append_right _ List.mem_cons_self
  refine ⟨fun i => if i = first then .entered else if i = n then .left v e else stage i,
    h.next ho rfl (fun i => ?_) (fun k he => ?_) (fun k he hfree => ?_) ?_⟩
  · by_cases hi : i = first
    · rw [hi]
      refine .inr ⟨s', hs', ⟨⟨?_, ?_, ?_⟩, ?_, ?_⟩⟩
      · rw [Crew.eventsOf_append, hfits'.events]
        simp [eventsOf, CrewEvent.number, SectionStage.events, Section.course,
          SectionStage.length, hne, hkey]
      · simp [SectionStage.post]
      · -- The lock passes on at once to the one that has waited longest.
        rw [if_pos rfl]
        intro he
        have hnow := h.freeAgain_of_stopped hs hstage he hholders
        have harrived : s'.arrival ≤ F.state.time := hfits'.timely he
        rw [startOf, ← hkey, predecessors_eq hholders' hnot, hnow, Nat.max_eq_right harrived]
        rfl
      · rw [if_pos rfl]
        exact fun v hv => by cases hv
      · exact fun e he => by rw [hstage'] at he; cases he
    rw [if_neg hi]
    by_cases hi' : i = n
    · rw [hi']
      refine .inr ⟨s, hs, ⟨⟨?_, ?_, ?_⟩, ?_, ?_⟩⟩
      · rw [Crew.eventsOf_append, hfits.events]
        simp [eventsOf, CrewEvent.number, SectionStage.events, Section.course,
          SectionStage.length, Ne.symm hne]
      · simp [SectionStage.post, hne, hnext]
      · rw [if_pos rfl, startOf_append sections hgot]
        exact ⟨hfits.timely.1, fun he => ⟨(hfits.timely.2 he).1, (hfits.timely.2 he).2.1⟩⟩
      · rw [if_pos rfl]
        exact fun v' hv' => .inl (hstage ▸ hv')
      · rw [if_pos rfl]
        exact fun e' he' => by rwa [hstage] at he'
    · rw [if_neg hi']
      refine .inl ⟨rfl, ?_, ?_⟩
      · simp [hi, hi']
      · simp [CrewEvent.number, Ne.symm hi, Ne.symm hi']
  · simpa [askers, CrewEvent.asker?] using h.arrivals k he
  · refine h.free_of_held s.key he hfree rfl (by simp) fun k hk => ?_
    simp [hk, holders, CrewEvent.holder?]
  · rw [keysAsked_append]
    exact h.keys.trans (congrArg List.eraseDups (List.append_nil _).symm)

theorem letGo {n : Nat} {key : String} {next : Unit → Program SectionRun} (ho : Orderly log F)
    (hpost : F.post n = .ready (.ask (.release key) next)) :
    ∃ stage', Running eager sections (log ++ [.asked n (.release key), .released n key])
      ((F.put n (.ready (next ()))).line key none) stage' := by
  obtain ⟨s, hs⟩ := h.section_of_post (i := n) (by simp [hpost])
  have hfits := h.fits n s hs
  obtain ⟨v, e, hstage, rfl, hnext⟩ := SectionStage.post_eq_release (hfits.post.symm.trans hpost)
  rw [hstage] at hfits
  obtain ⟨-, -, -, hholders⟩ := ho.release hpost
  have hgot : n ∈ holders s.key log := hholders ▸ List.mem_append_right _ List.mem_cons_self
  have hsame : ∀ k, holders k (log ++ [.asked n (.release s.key), .released n s.key]) =
      holders k log := by
    intro k
    simp [holders, CrewEvent.holder?]
  refine ⟨fun i => if i = n then .left v e else stage i,
    h.next_one ho ?_ hs ⟨⟨?_, ?_, ?_⟩, ?_, ?_⟩ ?_ ?_ (fun k he => ?_) (fun k he hfree => ?_) ?_⟩
  · rfl
  · rw [Crew.eventsOf_append, hfits.events]
    simp [eventsOf, CrewEvent.number, SectionStage.events, Section.course, SectionStage.length]
  · rw [Floor.post_line, Floor.post_put, if_pos rfl, hnext]
    rfl
  · rw [startOf_append sections hgot]
    exact ⟨hfits.timely.1, fun he => ⟨(hfits.timely.2 he).1, (hfits.timely.2 he).2.1⟩⟩
  · exact fun v' hv' => .inl (hstage ▸ hv')
  · exact fun e' he' => by rwa [hstage] at he'
  · exact fun i hi => if_neg hi
  · simp [CrewEvent.number]
  · simpa [askers, CrewEvent.asker?] using h.arrivals k he
  · rw [hsame]
    by_cases hk : k = s.key
    · rw [hk]
      exact Nat.le_of_eq (h.freeAgain_of_stopped hs hstage he hholders)
    · exact h.free k he (by simpa [hk] using hfree)
  · rw [keysAsked_append]
    exact h.keys.trans (congrArg List.eraseDups (List.append_nil _).symm)

/-- **Every step keeps all sections at their stages.** -/
theorem step (ho : Orderly log F) (hstep : F.Step World.surroundings eager events F') :
    ∃ stage', Running eager sections (log ++ events) F' stage' := by
  cases hstep with
  | finish hpost => exact h.finish ho hpost
  | goOn hpost hr htime => exact h.goOn ho hpost hr htime
  | sleep hpost hr htime => exact h.sleep ho hpost hr htime
  | wake hready hpost hdue => exact (List.append_nil log).symm ▸ h.wake hready hpost hdue
  | enter hpost hqueue => exact h.enter ho hpost hqueue
  | wait hpost _ => exact h.wait _ ho hpost
  | handOver hpost _ hfirst => exact h.handOver _ ho hpost hfirst
  | letGo hpost _ => exact h.letGo ho hpost

end Running

end DeployWatch
