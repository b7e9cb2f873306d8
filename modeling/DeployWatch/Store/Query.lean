import DeployWatch.Number.Digits
import DeployWatch.Task.Basic

/-!
# Asking for stored tasks

* `TaskQuery`, `TaskQuery.accepts`: the tasks asked for;
* `TaskQuery.page`: their listing, newest first, cut to a page;
* `StoreError`.
-/

namespace DeployWatch

open Time (Instant)

/-- A query for tasks created in a span of time, both ends included. -/
structure TaskQuery where
  start : Instant
  stop : Instant
  /-- Only tasks of this application. -/
  app : Option String := none
  /-- The length of the page; zero and below stand for no limit. -/
  limit : Int64 := 0
  /-- Tasks to pass over; below zero for none. -/
  offset : Int64 := 0
  deriving Repr, Inhabited

/-- One page of a listing and the number of tasks on all pages. -/
structure TaskPage where
  tasks : List Task
  total : Nat
  deriving DecidableEq, Repr, Inhabited

/-- Why the store did not answer. -/
inductive StoreError where
  | notFound (id : Uuid)
  | database (text : String)
  deriving DecidableEq, Repr, Inhabited

def StoreError.message : StoreError → String
  | notFound id => "task not found: " ++ id.render
  | database t => "database error: " ++ t

namespace TaskQuery

/-- Whether a task is asked for. -/
def accepts (q : TaskQuery) (t : Task) : Bool :=
  decide (q.start ≤ t.created) && decide (t.created ≤ q.stop) && q.app.all fun a => t.app == a

/-- The tasks asked for, newest first; tasks of one instant keep their order. -/
def listing (q : TaskQuery) (tasks : List Task) : List Task :=
  (tasks.filter q.accepts).mergeSort fun a b => decide (b.created ≤ a.created)

/-- Cuts a page out of a listing. -/
def cut (q : TaskQuery) (tasks : List Task) : List Task :=
  let rest := tasks.drop q.offset.toInt.toNat
  if 0 < q.limit.toInt then rest.take q.limit.toInt.toNat else rest

def page (q : TaskQuery) (tasks : List Task) : TaskPage :=
  let all := q.listing tasks
  ⟨q.cut all, all.length⟩

end TaskQuery

end DeployWatch
