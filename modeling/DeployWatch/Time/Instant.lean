import DeployWatch.Time.Calendar

/-!
# Instants

An instant is a number of seconds since the epoch and a number of nanoseconds. A leap second is the
second before it with a thousand million nanoseconds more.

* `Instant`, ordered by seconds, then nanoseconds;
* `Instant.least`, `Instant.greatest`: the ends of the range;
* `Instant.add`: adds a signed number of nanoseconds.
-/

namespace DeployWatch.Time

/-- A point of time. -/
structure Instant where
  secs : Int
  nanos : Nat
  deriving DecidableEq, Repr, Inhabited

namespace Instant

def le (a b : Instant) : Prop := a.secs < b.secs ∨ (a.secs = b.secs ∧ a.nanos ≤ b.nanos)

def lt (a b : Instant) : Prop := a.secs < b.secs ∨ (a.secs = b.secs ∧ a.nanos < b.nanos)

instance : LE Instant := ⟨le⟩
instance : LT Instant := ⟨lt⟩
instance (a b : Instant) : Decidable (a ≤ b) := inferInstanceAs (Decidable (_ ∨ _))
instance (a b : Instant) : Decidable (a < b) := inferInstanceAs (Decidable (_ ∨ _))

/-- The first representable instant, the start of the year -262143. -/
def least : Instant := ⟨-8334601228800, 0⟩

/-- The last representable instant outside leap seconds, at the end of the year 262142. -/
def greatest : Instant := ⟨8210266876799, 999999999⟩

/-- The instant of a number of nanoseconds since the epoch. -/
def ofNanos (n : Int) : Instant := ⟨n / 1000000000, (n % 1000000000).toNat⟩

/-- Whether the instant lies in a leap second. -/
def inLeapSecond (t : Instant) : Bool := 1000000000 ≤ t.nanos

/-- Adds a signed number of nanoseconds. A leap second is left as soon as a whole second is added or
its own nanoseconds run out. -/
def add (t : Instant) (delta : Int) : Instant :=
  let whole := delta.tdiv 1000000000
  let part := delta.tmod 1000000000
  let plain := fun (secs nanos : Int) =>
    let n := nanos + part
    (⟨secs + whole + n / 1000000000, (n % 1000000000).toNat⟩ : Instant)
  if t.inLeapSecond then
    if 0 < whole ∨ (0 < part ∧ 2000000000 ≤ t.nanos + part) then plain t.secs (t.nanos - 1000000000)
    else if whole < 0 then plain (t.secs + 1) (t.nanos - 1000000000)
    else ⟨t.secs, (t.nanos + part).toNat⟩
  else plain t.secs t.nanos

def inRange (t : Instant) : Bool := least.secs ≤ t.secs && t.secs ≤ greatest.secs

/-- The instant a number of nanoseconds earlier, or the first instant if there is none. -/
def before (t : Instant) (nanos : Nat) : Instant :=
  let r := t.add (-(nanos : Int))
  if r.inRange then r else least

end Instant

end DeployWatch.Time
