import DeployWatch.Program

/-!
# Sections under a lock

* `SectionEnd`, `Section`: a section that takes a time and ends in one of three ways;
* `Section.program`: arrives, runs the section under its lock, and notes when it started and ended.
-/

namespace DeployWatch

inductive SectionEnd where
  | success
  | failure (text : String)
  | crash
  deriving DecidableEq, Repr, Inhabited

/-- A section under the lock of a key. -/
structure Section where
  key : String
  /-- Milliseconds until the lock is asked for. -/
  arrival : Nat
  /-- Milliseconds for which the lock is held. -/
  hold : Nat
  ending : SectionEnd
  deriving DecidableEq, Repr, Inhabited

/-- When a section ran and how it ended. -/
structure SectionRun where
  start : Nat
  stop : Nat
  ending : SectionEnd
  deriving DecidableEq, Repr, Inhabited

namespace Section

/-- The inner part: notes the time, waits, and notes the time again. -/
def body (s : Section) : Program SectionRun := do
  let start ← Program.request .elapsed
  Program.sleep s.hold
  let stop ← Program.request .elapsed
  return ⟨start, stop, s.ending⟩

/-- Arrives and runs the inner part under the lock. -/
def program (s : Section) : Program SectionRun := do
  Program.sleep s.arrival
  Program.underLock s.key s.body

end Section

end DeployWatch
