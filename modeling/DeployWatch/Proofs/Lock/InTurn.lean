import DeployWatch.Proofs.Lock.Sections
import DeployWatch.Proofs.Program.Ending

/-!
# Sections run in turn

* `running_start`, `running_of_reaches`: all sections are at their stages in every interleaving;
* `startOf_next`: a section can start when its predecessor has stopped;
* `Running.length_le`: no interleaving goes on for ever;
* `times_of_ended`, `stop_le_of_predecessor`: the times of sections that have ended;
* `InTurn`, **`sections_in_turn`**: what every interleaving of sections comes to.
-/

namespace DeployWatch

open Crew (Orderly askers holders leavers eventsOf)
open Simulation (World)

variable {eager : Prop} {sections : List Section} {w : World} {log : List (CrewEvent SectionRun)}
  {c : Crew World SectionRun}

/-- Sections that are all ready to start, while no lock has been asked for. -/
def sectionCrew (sections : List Section) (w : World) : Crew World SectionRun :=
  .ofPrograms (sections.map Section.program) { w with time := 0, keys := [] }

theorem running_start :
    Running eager sections [] (sectionCrew sections w).floor fun _ => .fresh where
  fits i s hs := by
    refine ⟨rfl, ?_, fun _ => rfl⟩
    rw [sectionCrew, Crew.post_ofPrograms, List.getElem?_map, hs]
    rfl
  absent i hi := by
    refine ⟨rfl, ?_⟩
    rw [sectionCrew, Crew.post_ofPrograms, List.getElem?_map, hi]
    rfl
  arrivals _ _ := .nil
  free _ _ _ := Nat.le_refl 0
  apart _ _ _ _ hv := by cases hv
  keys := rfl

theorem running_of_reaches (h : Crew.Reaches World.surroundings eager (sectionCrew sections w) log c) :
    c.Tidy ∧ Orderly log c.floor ∧ ∃ stage, Running eager sections log c.floor stage := by
  refine Crew.Reaches.orderly (I := fun log F => ∃ stage, Running eager sections log F stage)
    (fun p hp => ?_) ⟨_, running_start⟩ ?_ h
  · obtain ⟨s, -, rfl⟩ := List.mem_map.mp hp
    exact s.orderly
  · rintro log F events F' ho - ⟨stage, hrunning⟩ hstep
    exact hrunning.step ho hstep

/-! ## Starts -/

/-- A section can start when its predecessor has stopped. -/
theorem startOf_next {before after : List Nat} {p i : Nat} {s s' : Section}
    (hp : sections[p]? = some s) (hkey : s.key = s'.key)
    (hholders : holders s.key log = before ++ p :: i :: after) (hnodup : (holders s.key log).Nodup) :
    startOf sections s' i log = max s'.arrival (startOf sections s p log + s.hold) := by
  rw [hholders] at hnodup
  have hbefore : p ∉ before := by
    rw [List.nodup_append] at hnodup
    exact fun hmem => hnodup.2.2 p hmem p List.mem_cons_self rfl
  have hsplit : holders s.key log = (before ++ [p]) ++ i :: after := by
    rw [hholders, List.append_assoc]
    rfl
  have hbefore' : i ∉ before ++ [p] := by
    rw [← hholders, hsplit, List.nodup_append] at hnodup
    exact fun hmem => hnodup.2.2 i hmem i List.mem_cons_self rfl
  rw [startOf, startOf, ← hkey, predecessors_eq hholders hbefore, predecessors_eq hsplit hbefore',
    sectionsAt_append hp, freeAgain_append]

theorem startOf_first {after : List Nat} {i : Nat} {s : Section}
    (hholders : holders s.key log = i :: after) : startOf sections s i log = s.arrival := by
  have hsplit : holders s.key log = [] ++ i :: after := hholders
  rw [startOf, predecessors_eq hsplit List.not_mem_nil]
  exact Nat.max_eq_left (Nat.zero_le _)

/-- Who has had a lock was before another program, or the other one was before it. -/
theorem mem_predecessors_or {key : String} {i j : Nat} (hi : i ∈ holders key log) (hne : i ≠ j) :
    i ∈ predecessors key j log ∨ j ∈ predecessors key i log := by
  obtain ⟨before, after, hsplit, hbefore⟩ := List.eq_append_cons_of_mem hi
  by_cases hmem : j ∈ before
  · rw [predecessors_eq hsplit hbefore]
    exact .inr hmem
  · refine .inl ?_
    have hpos : ∀ k ∈ before ++ [i], decide (k ≠ j) = true := by
      intro k hk
      rcases List.mem_append.mp hk with hk | hk
      · have hkj : k ≠ j := fun hkj => hmem (hkj ▸ hk)
        simpa using hkj
      · rw [List.mem_singleton.mp hk]
        simpa using hne
    have hsplit' : holders key log = (before ++ [i]) ++ after := by
      rw [hsplit, List.append_assoc]
      rfl
    rw [predecessors, hsplit', List.takeWhile_append_of_pos hpos]
    exact List.mem_append_left _ (List.mem_append_right _ List.mem_cons_self)

/-! ## The length of a log -/

/-- No interleaving goes on for ever. -/
theorem Running.length_le {F : Floor World SectionRun} {stage : Nat → SectionStage}
    (h : Running eager sections log F stage) : log.length ≤ 9 * sections.length := by
  refine Crew.length_le_of_eventsOf (fun i hi => (h.absent i ?_).1) fun i hi => ?_
  · exact List.getElem?_eq_none hi
  · rw [(h.fits i _ (List.getElem?_eq_getElem hi)).events]
    exact SectionStage.events_prefix.length_le

/-! ## Sections that have ended -/

section Ended

variable {stage : Nat → SectionStage} (htidy : c.Tidy) (h : Running eager sections log c.floor stage)
  {i : Nat} {s : Section} {run : SectionRun} (hs : sections[i]? = some s)
  (hrun : c.ended.lookup i = some run)

include htidy h hs hrun

theorem stage_of_ended : stage i = .gone run.start run.stop ∧ run.ending = s.ending := by
  have hpost := (h.fits i s hs).post.symm.trans (htidy.lookup_ended_iff.mp hrun)
  obtain ⟨v, e, hstage, rfl⟩ := SectionStage.post_eq_ended hpost
  exact ⟨hstage, rfl⟩

theorem mem_holders_of_ended : i ∈ holders s.key log := by
  obtain ⟨hstage, -⟩ := stage_of_ended htidy h hs hrun
  exact (h.mem_holders_iff hs).mpr ⟨rfl, by simp [hstage, SectionStage.length]⟩

/-- What has come about with a section that has ended is its whole course. -/
theorem eventsOf_of_ended : eventsOf i log = s.course i run := by
  obtain ⟨hstage, hending⟩ := stage_of_ended htidy h hs hrun
  rw [(h.fits i s hs).events, hstage]
  show s.course i ⟨run.start, run.stop, s.ending⟩ = s.course i run
  rw [← hending]

theorem times_of_ended (he : eager) :
    run.start = startOf sections s i log ∧ run.stop = run.start + s.hold := by
  obtain ⟨hstage, -⟩ := stage_of_ended htidy h hs hrun
  have htimely := (h.fits i s hs).timely
  rw [hstage] at htimely
  obtain ⟨hstart, hstop⟩ := htimely.2 he
  exact ⟨hstart, by rw [hstop, hstart]⟩

/-- Who has had the lock before has stopped before a section starts. -/
theorem stop_le_of_predecessor {j : Nat} {s' : Section} {run' : SectionRun}
    (hs' : sections[j]? = some s') (hrun' : c.ended.lookup j = some run')
    (hj : j ∈ predecessors s.key i log) : run'.stop ≤ run.start := by
  obtain ⟨hstage, -⟩ := stage_of_ended htidy h hs hrun
  obtain ⟨hstage', -⟩ := stage_of_ended htidy h hs' hrun'
  have hstart : (stage i).start? = some run.start := by
    rw [hstage]
    rfl
  obtain ⟨e, he, hle⟩ := h.apart i s run.start hs hstart j hj
  rw [hstage'] at he
  exact Option.some.inj he ▸ hle

end Ended

/-! ## Every interleaving -/

/-- What an interleaving of sections has come to. Times are exact if nobody who is ready is kept
waiting. -/
structure InTurn (eager : Prop) (sections : List Section) (log : List (CrewEvent SectionRun))
    (c : Crew World SectionRun) : Prop where
  /-- All who have got a lock have given it back, but one at most. -/
  exclusive (key : String) :
    ∃ inside, holders key log = leavers key log ++ inside ∧ inside.length ≤ 1
  /-- Callers get a lock in the order in which they have asked for it. -/
  fair (key : String) : holders key log <+: askers key log
  /-- Callers ask for a lock in the order in which they arrive. -/
  arrivals (key : String) : eager → (askers key log).Pairwise fun i j => ∀ s s',
    sections[i]? = some s → sections[j]? = some s' → s.arrival ≤ s'.arrival
  /-- A section runs once, after its caller has got the lock and before the caller gives it back, however
  the section ends. -/
  course (i : Nat) (s : Section) : sections[i]? = some s → ∃ run, eventsOf i log <+: s.course i run
  /-- A caller gets the result of its own section. -/
  result (i : Nat) (s : Section) (run : SectionRun) : sections[i]? = some s →
    c.ended.lookup i = some run → eventsOf i log = s.course i run ∧ run.ending = s.ending
  /-- Sections under one lock do not overlap. -/
  apart (i j : Nat) (s s' : Section) (run run' : SectionRun) : i ≠ j → s.key = s'.key →
    sections[i]? = some s → sections[j]? = some s' → c.ended.lookup i = some run →
    c.ended.lookup j = some run' → run.stop ≤ run'.start ∨ run'.stop ≤ run.start
  /-- When a section starts is a matter of those only that have had its own lock before. -/
  times (i : Nat) (s : Section) (run : SectionRun) : eager → sections[i]? = some s →
    c.ended.lookup i = some run →
    run.start = startOf sections s i log ∧ run.stop = run.start + s.hold
  /-- The first section to get a lock starts when it arrives. -/
  first (i : Nat) (s : Section) (run : SectionRun) (after : List Nat) : eager →
    holders s.key log = i :: after → sections[i]? = some s → c.ended.lookup i = some run →
    run.start = s.arrival
  /-- A later one starts when it has arrived and its predecessor has stopped. -/
  next (p i : Nat) (s s' : Section) (run run' : SectionRun) (before after : List Nat) : eager →
    s.key = s'.key → holders s.key log = before ++ p :: i :: after → sections[p]? = some s →
    sections[i]? = some s' → c.ended.lookup p = some run → c.ended.lookup i = some run' →
    run'.start = max s'.arrival run.stop
  /-- The table has every key once that was ever asked for. -/
  keys : c.state.keys = (keysAsked log).eraseDups
  /-- No interleaving goes on for ever: at most so much comes about in it. -/
  bounded : log.length ≤ 9 * sections.length
  /-- Nobody waits for ever: once nobody can go on, all have their results. -/
  finished : c.isOver = true → ∀ i < sections.length, ∃ run, c.ended.lookup i = some run

/-- **Sections run in turn in every interleaving.** -/
theorem sections_in_turn
    (h : Crew.Reaches World.surroundings eager (sectionCrew sections w) log c) :
    InTurn eager sections log c := by
  obtain ⟨htidy, ho, stage, hrunning⟩ := running_of_reaches h
  refine ⟨fun key => ?_, fun key => ?_, hrunning.arrivals, fun i s hs => ?_,
    fun i s run hs hrun => ?_, fun i j s s' run run' hne hkey hs hs' hrun hrun' => ?_,
    fun i s run he hs hrun => times_of_ended htidy hrunning hs hrun he,
    fun i s run after he hholders hs hrun => ?_,
    fun p i s s' run run' before after he hkey hholders hs hs' hrun hrun' => ?_, hrunning.keys,
    hrunning.length_le, fun hover i hi => ?_⟩
  · cases hq : c.floor.queue key with
    | none => exact ⟨[], by simpa using (ho.line key).free hq, Nat.zero_le 1⟩
    | some q =>
      obtain ⟨n, hn⟩ := (ho.line key).held (by simp [hq])
      exact ⟨[n], hn, Nat.le_refl 1⟩
  · exact ⟨_, (ho.line key).fair.symm⟩
  · refine ⟨(stage i).run s, ?_⟩
    rw [(hrunning.fits i s hs).events]
    exact SectionStage.events_prefix
  · obtain ⟨-, hending⟩ := stage_of_ended htidy hrunning hs hrun
    exact ⟨eventsOf_of_ended htidy hrunning hs hrun, hending⟩
  · -- One of the two has had the lock before the other.
    rcases mem_predecessors_or (mem_holders_of_ended htidy hrunning hs hrun) hne with hmem | hmem
    · exact .inl (stop_le_of_predecessor htidy hrunning hs' hrun' hs hrun (hkey ▸ hmem))
    · exact .inr (stop_le_of_predecessor htidy hrunning hs hrun hs' hrun' hmem)
  · rw [(times_of_ended htidy hrunning hs hrun he).1, startOf_first hholders]
  · obtain ⟨hstart, hstop⟩ := times_of_ended htidy hrunning hs hrun he
    obtain ⟨hstart', -⟩ := times_of_ended htidy hrunning hs' hrun' he
    rw [hstart', startOf_next hs hkey hholders (ho.nodup_holders _), hstop, hstart]
  · have hs : sections[i]? = some sections[i] := List.getElem?_eq_getElem hi
    have hnobody := fun i p => Crew.not_ready_of_isOver (n := i) (p := p) hover
    cases hpost : c.floor.post i with
    | ended run => exact ⟨run, htidy.lookup_ended_iff.mpr hpost⟩
    | absent =>
      have hstage := (hrunning.fits i _ hs).post.symm.trans hpost
      cases hst : stage i <;> rw [hst] at hstage <;> cases hstage
    | ready p => exact absurd hpost (hnobody i p).1
    | asleep due p => exact absurd hpost ((hnobody i p).2 due)
    | queued key p => exact absurd hpost ((ho.free_of_over hnobody).2 i key p)

/-! ## A section that crashes -/

/-- Two sections under one lock, the first of which crashes, and one under another lock. -/
def crashingSections : List Section :=
  [⟨"first", 0, 5, .crash⟩, ⟨"first", 2, 3, .success⟩, ⟨"second", 1, 4, .failure "refused"⟩]

theorem sections_in_turn_after_crash : ∃ log c,
    Crew.Reaches World.surroundings True (sectionCrew crashingSections { now := 0 }) log c ∧
      c.isOver = true ∧ c.ended.lookup 0 = some ⟨0, 5, .crash⟩ ∧
      c.ended.lookup 1 = some ⟨5, 8, .success⟩ ∧ c.ended.lookup 2 = some ⟨1, 5, .failure "refused"⟩ ∧
      InTurn True crashingSections log c := by
  have hstart : Crew.Reaches World.surroundings True (sectionCrew crashingSections { now := 0 }) []
    (sectionCrew crashingSections { now := 0 }) := .start
  have hrun : (fun c : Crew World SectionRun => (c.isOver, [0, 1, 2].map fun i => c.ended.lookup i))
        (Crew.run World.surroundings 60 (sectionCrew crashingSections { now := 0 })) =
      (true, [some ⟨0, 5, .crash⟩, some ⟨5, 8, .success⟩, some ⟨1, 5, .failure "refused"⟩]) := by
    decide +kernel
  obtain ⟨log, hlog⟩ := Crew.run_reaches World.surroundings hstart 60
  generalize Crew.run World.surroundings 60 _ = c at hrun hlog
  simp only [List.map_cons, List.map_nil, Prod.mk.injEq, List.cons.injEq, and_true] at hrun
  obtain ⟨hover, h₀, h₁, h₂⟩ := hrun
  exact ⟨log, c, hlog, hover, h₀, h₁, h₂, sections_in_turn hlog⟩

end DeployWatch
