/-!
# Schedules of repeated attempts

* `PollPolicy`: how often and at what distance an application is looked at;
* `PollPolicy.forTimeout`: the policy of a task with a timeout;
* `Backoff`, `Backoff.delay`: growing delays between attempts, with a jitter.
-/

namespace DeployWatch

/-- Polls at a fixed distance. -/
structure PollPolicy where
  attempts : UInt32 := 15
  /-- Milliseconds between polls. -/
  delay : Nat := 15000
  deriving DecidableEq, Repr, Inhabited

namespace PollPolicy

/-- Seconds that one poll stands for. -/
def secondsPerAttempt : Int := 15

/-- Polls of a task whose timeout gives none. -/
def leastAttempts : UInt32 := 15

/-- The quotient rounded up. -/
def divUp (n d : Int) : Int := -((-n) / d)

/-- The policy for a timeout in seconds: one poll more than the timeout has parts of fifteen seconds,
fifteen polls if that is not positive, and the policy itself without a timeout. -/
def forTimeout (p : PollPolicy) (timeout : Int64) : PollPolicy :=
  if timeout = 0 then p
  else
    let wanted := divUp timeout.toInt secondsPerAttempt + 1
    if 0 < wanted then { p with attempts := UInt32.ofNat (min wanted.toNat 4294967295) }
    else { p with attempts := leastAttempts }

/-- The number of polls made, at least one. -/
def count (p : PollPolicy) : Nat := max p.attempts.toNat 1

end PollPolicy

/-- Delays that double from attempt to attempt. -/
structure Backoff where
  maxAttempts : UInt32 := 3
  /-- Milliseconds after the first attempt. -/
  baseDelay : UInt64 := 1000
  deriving DecidableEq, Repr, Inhabited

namespace Backoff

/-- The longest delay without jitter in milliseconds. -/
def maxDelay : Nat := 30000

/-- The delay after an attempt, counted from zero, without jitter. -/
def capped (b : Backoff) (attempt : UInt32) : Nat :=
  let base := b.baseDelay.toNat
  if base = 0 then 0
  else if 16 ≤ attempt.toNat then maxDelay
  else min (base * Nat.pow 2 attempt.toNat) maxDelay

/-- The delay in milliseconds after an attempt; `nanos` is the part of the clock's reading below one
second, whose last three digits give up to a quarter more. -/
def delay (b : Backoff) (attempt : UInt32) (nanos : Nat) : Nat :=
  let c := b.capped attempt
  c + c * (nanos % 1000) / 4000

/-- The part of a clock's reading, in nanoseconds since the epoch, below one second; nothing is taken from
a clock before the epoch. -/
def jitterSource (now : Int) : Nat := if now < 0 then 0 else (now % 1000000000).toNat

/-- The number of attempts made, at least one. -/
def count (b : Backoff) : Nat := max b.maxAttempts.toNat 1

end Backoff

end DeployWatch
