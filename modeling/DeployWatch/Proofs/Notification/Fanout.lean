import DeployWatch.Proofs.Notification.Deliveries
import Mathlib.Data.List.Forall2
import Mathlib.Data.List.Nodup
import Mathlib.Data.List.Perm.Basic

/-!
# Fan-outs

* `Sends`: what sending a task to channels has to come to, and **`sends_send`**: a notifier's sending does;
* `joined`: the results of channels in the order of registration;
* `ended_perm_range`, `joined_ended`, `delivered_perm`: what channels have come to once nobody can go on;
* `FansOut`, **`sent_to_all_at_once`**: every interleaving of the channels comes to the notifier's sending;
* `sent_to_all_at_once_uneven`: three channels that complete in another order than they are listed.
-/

namespace DeployWatch

open Crew (endings eventsOf)
open Notifier (Delivered Sending failureText report send)
open Simulation (World)

/-! ## What a sending is -/

/-- A channel fails with a text: its name and the message of its error. -/
def Channel.FailsWith (t : Task) (ch : Channel) (text : String) : Prop :=
  ∃ e, (ch.deliver t).result = .error e ∧ text = ch.name ++ ": " ++ e.message

def Channel.fails (t : Task) (ch : Channel) : Bool :=
  match (ch.deliver t).result with
  | .ok () => false
  | .error _ => true

namespace Notifier

/-- What sending a task to channels has to come to. -/
structure Sends (channels : List Channel) (t : Task) (sent : Sending) : Prop where
  /-- Every channel delivers the task once, after no more than its own time. -/
  deliveries : sent.deliveries.Perm (channels.map fun ch => ⟨(ch.deliver t).delay, ch.name, t⟩)
  /-- Deliveries are listed as they complete. -/
  inOrder : sent.deliveries.Pairwise fun d d' => d.time ≤ d'.time
  /-- It takes as long as the longest delivery. -/
  longest (bound : Nat) : sent.duration ≤ bound ↔ ∀ ch ∈ channels, (ch.deliver t).delay ≤ bound
  /-- It succeeds if every channel does. -/
  success : sent.result = .ok () ↔ ∀ ch ∈ channels, (ch.deliver t).result = .ok ()
  /-- Else there is one error, with the texts of the channels that failed in the order of registration. -/
  failure : sent.result ≠ .ok () → ∃ texts, sent.result = .error (.partially texts) ∧
    List.Forall₂ (Channel.FailsWith t) (channels.filter (·.fails t)) texts

section Send

variable (channels : List Channel) (t : Task)

theorem foldl_max_le_iff (all : List (String × Delivery)) (m bound : Nat) :
    all.foldl (fun m x => max m x.2.delay) m ≤ bound ↔ m ≤ bound ∧ ∀ x ∈ all, x.2.delay ≤ bound := by
  induction all generalizing m with
  | nil => simp
  | cons x all ih =>
    rw [List.foldl_cons, ih, Nat.max_le, List.forall_mem_cons, and_assoc]

theorem report_eq_ok_iff {results : List (String × Except NotifyError Unit)} :
    report results = .ok () ↔ ∀ r ∈ results, r.2 = .ok () := by
  have hnone : ∀ r : String × Except NotifyError Unit, failureText r = none ↔ r.2 = .ok () := by
    rintro ⟨name, _ | _⟩ <;> simp [failureText]
  have hok : report results = .ok () ↔ results.filterMap failureText = [] := by
    unfold report
    cases results.filterMap failureText <;> simp
  rw [hok, List.filterMap_eq_nil_iff]
  exact forall₂_congr fun r _ => hnone r

theorem report_of_failure {results : List (String × Except NotifyError Unit)}
    (h : report results ≠ .ok ()) : report results = .error (.partially (results.filterMap failureText)) := by
  unfold report at h ⊢
  cases hfailed : results.filterMap failureText with
  | nil => simp [hfailed] at h
  | cons text texts => rfl

/-- The texts of a report are those of the channels that failed. -/
theorem failureTexts : List.Forall₂ (Channel.FailsWith t) (channels.filter (·.fails t))
    ((channels.map fun ch => (ch.name, (ch.deliver t).result)).filterMap failureText) := by
  induction channels with
  | nil => exact .nil
  | cons ch channels ih =>
    cases hresult : (ch.deliver t).result with
    | ok _ =>
      have hfails : ch.fails t = false := by simp [Channel.fails, hresult]
      rw [List.filter_cons_of_neg (by simp [hfails]), List.map_cons, List.filterMap_cons, hresult]
      exact ih
    | error e =>
      have hfails : ch.fails t = true := by simp [Channel.fails, hresult]
      rw [List.filter_cons_of_pos hfails, List.map_cons, List.filterMap_cons, hresult]
      exact .cons ⟨e, hresult, rfl⟩ ih

/-- **A notifier's sending** is what it has to be. -/
theorem sends_send : Sends channels t (send channels t) where
  deliveries := deliveries_send_perm channels t
  inOrder := by
    have hsorted : (send channels t).deliveries.Pairwise fun d d' => decide (d.time ≤ d'.time) = true :=
      List.pairwise_mergeSort (fun a b c => by simpa using Nat.le_trans)
        (fun a b => by simpa using Nat.le_total a.time b.time) _
    exact hsorted.imp fun h => by simpa using h
  longest bound := by
    refine (foldl_max_le_iff _ 0 bound).trans ?_
    simp
  success := by
    rw [result_send, report_eq_ok_iff]
    simp
  failure h := by
    rw [result_send] at h ⊢
    exact ⟨_, report_of_failure h, failureTexts channels t⟩

end Send

end Notifier

/-! ## What interleavings come to -/

/-- The results of the channels that have ended, with their names, in the order of registration. -/
def joined (channels : List Channel) (ended : List (Nat × Handover)) :
    List (String × Except NotifyError Unit) :=
  channels.zipIdx.filterMap fun e => (ended.lookup e.2).map fun h => (e.1.name, h.result)

section Zip

variable {β : Type} {channels : List Channel}

/-- What depends on a channel and its number can be told of all channels in the order of registration. -/
theorem filterMap_zipIdx {f : Channel → Nat → Option β} {g : Channel → β}
    (hf : ∀ i ch, channels[i]? = some ch → f ch i = some (g ch)) :
    (channels.zipIdx.filterMap fun e => f e.1 e.2) = channels.map g := by
  have hsome : (channels.zipIdx.filterMap fun e => f e.1 e.2) =
      channels.zipIdx.filterMap (some ∘ fun e => g e.1) :=
    List.filterMap_congr fun e he => hf e.2 e.1 (List.mk_mem_zipIdx_iff_getElem?.mp he)
  rw [hsome, List.filterMap_eq_map]
  show channels.zipIdx.map (g ∘ Prod.fst) = _
  rw [← List.map_map, List.zipIdx_map_fst]

theorem filterMap_range {f : Nat → Option β} {g : Channel → β}
    (hf : ∀ i ch, channels[i]? = some ch → f i = some (g ch)) :
    (List.range channels.length).filterMap f = channels.map g := by
  rw [← filterMap_zipIdx (f := fun _ => f) hf, List.range_eq_range', ← List.zipIdx_map_snd 0 channels,
    List.filterMap_map]
  rfl

end Zip

section Over

variable {eager : Prop} {channels : List Channel} {t : Task} {log : List (CrewEvent Handover)}
  {c : Crew World Handover} (htidy : c.Tidy) (h : Underway eager channels t log c.floor)

include htidy h

/-- What a channel that has ended has done. -/
theorem of_lookup_ended {i : Nat} {ch : Channel} {run : Handover} (hch : channels[i]? = some ch)
    (hrun : c.ended.lookup i = some run) : eventsOf i log = ch.course t i run ∧
      ∃ start stop, run = ch.handover t start stop ∧
        (eager → start = 0 ∧ stop = (ch.deliver t).delay ∧ stop ≤ c.state.time) := by
  have hfits := h.fits i ch hch
  rw [htidy.lookup_ended_iff.mp hrun] at hfits
  exact hfits.of_ended

/-- Only channels end. -/
theorem channel_of_ended {e : Nat × Handover} (he : e ∈ c.ended) :
    ∃ ch, channels[e.1]? = some ch ∧ c.ended.lookup e.1 = some e.2 := by
  have hlookup : c.ended.lookup e.1 = some e.2 := Crew.lookup_of_mem htidy.nodup_ended he
  obtain ⟨ch, hch, -⟩ := h.fits_of_post (htidy.lookup_ended_iff.mp hlookup) (by simp)
  exact ⟨ch, hch, hlookup⟩

variable (hover : c.isOver = true)

include hover

/-- Once nobody can go on, every channel has ended. -/
theorem exists_lookup_ended {i : Nat} {ch : Channel} (hch : channels[i]? = some ch) :
    ∃ run, c.ended.lookup i = some run := by
  rcases (h.fits i ch hch).stands with ⟨p, hpost⟩ | ⟨due, p, hpost⟩ | ⟨run, hpost⟩
  · exact absurd hpost (Crew.not_ready_of_isOver hover).1
  · exact absurd hpost ((Crew.not_ready_of_isOver hover).2 due)
  · exact ⟨run, htidy.lookup_ended_iff.mpr hpost⟩

/-- **Every channel has ended once.** -/
theorem ended_perm_range : (c.ended.map (·.1)).Perm (List.range channels.length) := by
  refine (List.perm_ext_iff_of_nodup htidy.nodup_ended List.nodup_range).mpr fun i => ?_
  rw [List.mem_range]
  constructor
  · intro hi
    obtain ⟨e, he, rfl⟩ := List.mem_map.mp hi
    obtain ⟨ch, hch, -⟩ := channel_of_ended htidy h he
    exact (List.getElem?_eq_some_iff.mp hch).1
  · intro hi
    obtain ⟨run, hrun⟩ := exists_lookup_ended htidy h hover (List.getElem?_eq_getElem hi)
    obtain ⟨before, after, hsplit, -⟩ := List.lookup_eq_some_iff.mp hrun
    exact List.mem_map.mpr ⟨(i, run), by simp [hsplit], rfl⟩

/-- **The results stand in the order of registration**, whatever the order in which channels have ended. -/
theorem joined_ended :
    joined channels c.ended = channels.map fun ch => (ch.name, (ch.deliver t).result) := by
  refine filterMap_zipIdx (f := fun ch i => (c.ended.lookup i).map fun run => (ch.name, run.result))
    fun i ch hch => ?_
  obtain ⟨run, hrun⟩ := exists_lookup_ended htidy h hover hch
  obtain ⟨-, start, stop, rfl, -⟩ := of_lookup_ended htidy h hch hrun
  rw [hrun]
  rfl

/-- What has been delivered, if nobody who is ready was kept waiting. -/
theorem delivered_perm (he : eager) : (c.ended.map (·.2.delivered)).Perm
    (channels.map fun ch => ⟨(ch.deliver t).delay, ch.name, t⟩) := by
  have hchannels : (List.range channels.length).filterMap
      (fun i => channels[i]?.map fun ch => (⟨(ch.deliver t).delay, ch.name, t⟩ : Delivered)) =
      channels.map fun ch => ⟨(ch.deliver t).delay, ch.name, t⟩ :=
    filterMap_range fun i ch hch => by rw [hch]; rfl
  have hended : (c.ended.map (·.1)).filterMap
      (fun i => channels[i]?.map fun ch => (⟨(ch.deliver t).delay, ch.name, t⟩ : Delivered)) =
      c.ended.map (·.2.delivered) := by
    rw [List.filterMap_map, ← List.filterMap_eq_map]
    refine List.filterMap_congr fun e hmem => ?_
    obtain ⟨ch, hch, hlookup⟩ := channel_of_ended htidy h hmem
    obtain ⟨-, start, stop, hrun, htimes⟩ := of_lookup_ended htidy h hch hlookup
    show channels[e.1]?.map _ = some e.2.delivered
    rw [hch, hrun, Channel.handover, (htimes he).2.1]
    rfl
  rw [← hchannels, ← hended]
  exact (ended_perm_range htidy h hover).filterMap _

end Over

/-! ## All channels at once -/

namespace Notifier

/-- What an interleaving of channels has come to. Times are exact if nobody who is ready is kept
waiting. -/
structure FansOut (eager : Prop) (channels : List Channel) (t : Task) (sent : Sending)
    (log : List (CrewEvent Handover)) (c : Crew World Handover) : Prop where
  /-- A channel is handed the task once at most, whatever the others have come to. -/
  once (i : Nat) (ch : Channel) : channels[i]? = some ch → ∃ run, eventsOf i log <+: ch.course t i run
  /-- No interleaving goes on for ever: at most so much comes about in it. -/
  bounded : log.length ≤ 4 * channels.length
  /-- A channel that has ended has delivered the task under its own name with its own result; it has begun
  at once and taken its own time. -/
  own (i : Nat) (ch : Channel) (run : Handover) : channels[i]? = some ch →
    c.ended.lookup i = some run → eventsOf i log = ch.course t i run ∧
      run.delivered.channel = ch.name ∧ run.delivered.task = t ∧ run.result = (ch.deliver t).result ∧
      (eager → run.start = 0 ∧ run.delivered.time = (ch.deliver t).delay)
  /-- Channels end in the order of the times. -/
  inOrder : eager → (c.ended.map (·.2.delivered)).Pairwise fun d d' => d.time ≤ d'.time
  /-- Once nobody can go on, every channel has ended, once each. -/
  complete : c.isOver = true → (c.ended.map (·.1)).Perm (List.range channels.length)
  /-- What has been delivered then. -/
  deliveries : eager → c.isOver = true → (c.ended.map (·.2.delivered)).Perm sent.deliveries
  /-- How long it has taken. -/
  lasts : eager → c.isOver = true → c.state.time = sent.duration
  /-- The results are reported in the order of registration, whatever the order in which channels have
  ended. -/
  result : c.isOver = true → report (joined channels c.ended) = sent.result

/-- What an interleaving of channels comes to. -/
theorem fansOut_of_reaches {eager : Prop} {channels : List Channel} {t : Task} {w : World}
    {log : List (CrewEvent Handover)} {c : Crew World Handover}
    (h : Crew.Reaches World.surroundings eager (fanOut channels t w) log c) :
    FansOut eager channels t (send channels t) log c := by
  obtain ⟨htidy, hunderway⟩ := underway_of_reaches h
  have hsends := sends_send channels t
  refine ⟨fun i ch hch => ?_, ?_, fun i ch run hch hrun => ?_, fun he => ?_,
    ended_perm_range htidy hunderway, fun he hover => ?_, fun he hover => ?_, fun hover => ?_⟩
  · obtain ⟨start, stop, hprefix⟩ := (hunderway.fits i ch hch).within_course
    exact ⟨_, hprefix⟩
  · refine Crew.length_le_of_eventsOf (fun i hi => ?_) fun i hi => ?_
    · exact (hunderway.absent i (List.getElem?_eq_none hi)).1
    · obtain ⟨_, _, hprefix⟩ :=
        (hunderway.fits i _ (List.getElem?_eq_getElem hi)).within_course
      exact hprefix.length_le
  · obtain ⟨hcourse, start, stop, rfl, htimes⟩ := of_lookup_ended htidy hunderway hch hrun
    exact ⟨hcourse, rfl, rfl, rfl, fun he => ⟨(htimes he).1, (htimes he).2.1⟩⟩
  · rw [h.ended_eq, List.pairwise_map]
    exact hunderway.inOrder he
  · exact (delivered_perm htidy hunderway hover he).trans hsends.deliveries.symm
  · refine Nat.le_antisymm ?_ ((hsends.longest _).mpr fun ch hmem => ?_)
    · exact hunderway.time _ he ((hsends.longest _).mp (Nat.le_refl _))
    · obtain ⟨i, hch⟩ := List.getElem?_of_mem hmem
      obtain ⟨run, hrun⟩ := exists_lookup_ended htidy hunderway hover hch
      obtain ⟨-, start, stop, -, htimes⟩ := of_lookup_ended htidy hunderway hch hrun
      obtain ⟨-, hstop, hle⟩ := htimes he
      exact hstop ▸ hle
  · rw [joined_ended htidy hunderway hover, result_send]

/-- **A task is sent to all channels at once.** The sending of a notifier delivers the task to every channel
once, takes as long as the longest delivery, and succeeds if every channel does; else its error has the
texts of the channels that failed, in the order of registration. The channels need not wait for each other:
if each of them hands the task over by itself, starting with the others, then they all come to their
end, and every interleaving of them comes to that sending. -/
theorem sent_to_all_at_once (channels : List Channel) (t : Task) :
    Sends channels t (send channels t) ∧
      (∀ w, ∃ fuel, ((fanOut channels t w).run World.surroundings fuel).isOver = true) ∧
      ∀ (eager : Prop) w log c,
        Crew.Reaches World.surroundings eager (fanOut channels t w) log c →
          FansOut eager channels t (send channels t) log c :=
  ⟨sends_send channels t,
    fun _ => Crew.run_isOver_of_bounded fun _ _ h => (fansOut_of_reaches h).bounded,
    fun _ _ _ _ h => fansOut_of_reaches h⟩

/-- Three channels, two of them with one name, which complete in another order than they are listed. -/
def unevenChannels : List Channel :=
  [⟨"hook", fun _ => ⟨40, .error (.unexpectedStatus 500)⟩⟩, ⟨"hook", fun _ => ⟨5, .ok ()⟩⟩,
    ⟨"mail", fun _ => ⟨20, .error (.partially ["refused", "unknown"])⟩⟩]

def shippedTask : Task :=
  Submission.toTask { app := "demo", images := [⟨"demo/nginx", "v1"⟩] } (Simulation.taskId 0) (.ofNanos 0)

theorem sent_to_all_at_once_uneven : ∃ log c,
    Crew.Reaches World.surroundings True (fanOut unevenChannels shippedTask { now := 0 }) log c ∧
      c.isOver = true ∧ c.ended.map (·.1) = [1, 2, 0] ∧ c.state.time = 40 ∧
      (send unevenChannels shippedTask).result = .error (.partially
        ["hook: unexpected response code 500", "mail: notification failed: refused; unknown"]) ∧
      FansOut True unevenChannels shippedTask (send unevenChannels shippedTask) log c := by
  have hrun : (fun c : Crew World Handover => (c.isOver, c.ended.map (·.1), c.state.time))
        (Crew.run World.surroundings 60 (fanOut unevenChannels shippedTask { now := 0 })) =
      (true, [1, 2, 0], 40) := by
    decide +kernel
  have hstart : Crew.Reaches World.surroundings True (fanOut unevenChannels shippedTask { now := 0 }) []
    (fanOut unevenChannels shippedTask { now := 0 }) := .start
  obtain ⟨log, hlog⟩ := Crew.run_reaches World.surroundings hstart 60
  obtain ⟨-, -, hfans⟩ := sent_to_all_at_once unevenChannels shippedTask
  generalize Crew.run World.surroundings 60 _ = c at hrun hlog
  simp only [Prod.mk.injEq] at hrun
  obtain ⟨hover, hended, htime⟩ := hrun
  exact ⟨log, c, hlog, hover, hended, htime, by decide +kernel, hfans True _ log c hlog⟩

end Notifier

end DeployWatch
