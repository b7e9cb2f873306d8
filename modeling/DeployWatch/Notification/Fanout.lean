import DeployWatch.Number.Digits
import DeployWatch.Task.Basic

/-!
# Notifications

A notifier hands a task to all its channels at once and waits for all of them. Its report names the
channels that failed in the order in which they were registered.

* `NotifyError`, `Delivery`, `Channel`;
* `report`: the result of a fan-out from the results of its channels;
* `Sending`, `send`: what a fan-out does and when;
* `deliveries_send_perm`, `result_send`: every channel delivers once, and what is reported.
-/

namespace DeployWatch

open Number (decimal)

/-- Why a notification was not delivered. -/
inductive NotifyError where
  | request (text : String)
  | unexpectedStatus (code : Nat)
  /-- Texts of the channels that failed. -/
  | partially (texts : List String)
  deriving DecidableEq, Repr, Inhabited

def NotifyError.message : NotifyError → String
  | request t => "request failed: " ++ t
  | unexpectedStatus c => "unexpected response code " ++ String.ofList (decimal c)
  | partially ts => "notification failed: " ++ "; ".intercalate ts

/-- How a channel handles a task: how many milliseconds it takes, and the result. -/
structure Delivery where
  delay : Nat
  result : Except NotifyError Unit

structure Channel where
  name : String
  deliver : Task → Delivery

instance : Inhabited Channel := ⟨⟨"", fun _ => ⟨0, .ok ()⟩⟩⟩

namespace Notifier

/-- The text of a channel's failure. -/
def failureText (channel : String × Except NotifyError Unit) : Option String :=
  match channel.2 with
  | .ok () => none
  | .error e => some (channel.1 ++ ": " ++ e.message)

/-- The result of a fan-out: success if every channel succeeded, else the texts of those that did
not. -/
def report (results : List (String × Except NotifyError Unit)) : Except NotifyError Unit :=
  match results.filterMap failureText with
  | [] => .ok ()
  | texts => .error (.partially texts)

structure Delivered where
  /-- Milliseconds after the start. -/
  time : Nat
  channel : String
  task : Task

/-- A fan-out: its deliveries in the order in which they complete, the milliseconds until the last of
them, and the result. -/
structure Sending where
  deliveries : List Delivered
  duration : Nat
  result : Except NotifyError Unit

/-- Hands a task to all channels at once. -/
def send (channels : List Channel) (t : Task) : Sending :=
  let all := channels.map fun c => (c.name, c.deliver t)
  let done := all.map fun (name, d) => (⟨d.delay, name, t⟩ : Delivered)
  { deliveries := done.mergeSort fun a b => a.time ≤ b.time
    duration := all.foldl (fun m (_, d) => max m d.delay) 0
    result := report (all.map fun (name, d) => (name, d.result)) }

/-! ## Laws -/

theorem deliveries_send_perm (channels : List Channel) (t : Task) :
    (send channels t).deliveries.Perm
      (channels.map fun c => ⟨(c.deliver t).delay, c.name, t⟩) := by
  refine (List.mergeSort_perm _ _).trans (.of_eq ?_)
  rw [List.map_map]
  rfl

theorem result_send (channels : List Channel) (t : Task) :
    (send channels t).result = report (channels.map fun c => (c.name, (c.deliver t).result)) := by
  simp [send, Function.comp_def]

end Notifier

end DeployWatch
