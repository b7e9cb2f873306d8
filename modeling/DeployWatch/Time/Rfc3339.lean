import DeployWatch.Number.Digits
import DeployWatch.Text.Blank
import DeployWatch.Time.Instant

/-!
# Instants as text

Instants are written in UTC with no, three, six or nine decimal places of the second, the fewest that
are exact. Reading is more lenient: blanks before each part, one to nine or more decimal places, years of
any length with a sign, and offsets from UTC.

* `Instant.render`, `Instant.parse?`.
-/

namespace DeployWatch.Time

open DeployWatch.Number (isDigit readDigits decimal decimalPadded)
open DeployWatch.Text (trimStart isBlank)

def secondsPerDay : Int := 86400

/-- The year, with a sign and at least four digits outside 0 to 9999. -/
def renderYear (y : Int) : List Char :=
  if 0 ≤ y ∧ y ≤ 9999 then decimalPadded 4 y.toNat
  else (if y < 0 then '-' else '+') :: decimalPadded 4 y.natAbs

/-- The decimal places of the second. -/
def renderFraction (nanos : Nat) : List Char :=
  if nanos = 0 then []
  else if nanos % 1000000 = 0 then '.' :: decimalPadded 3 (nanos / 1000000)
  else if nanos % 1000 = 0 then '.' :: decimalPadded 6 (nanos / 1000)
  else '.' :: decimalPadded 9 nanos

/-- The text of an instant; second 60 is a leap second. -/
def Instant.chars (t : Instant) : List Char :=
  let date := Date.ofDays (t.secs / secondsPerDay)
  let ofDay := (t.secs % secondsPerDay).toNat
  let leap := t.inLeapSecond
  let second := ofDay % 60 + if leap then 1 else 0
  let nanos := if leap then t.nanos - 1000000000 else t.nanos
  renderYear date.year ++ '-' :: decimalPadded 2 date.month ++ '-' :: decimalPadded 2 date.day ++
    'T' :: decimalPadded 2 (ofDay / 3600) ++ ':' :: decimalPadded 2 (ofDay / 60 % 60) ++
    ':' :: decimalPadded 2 second ++ renderFraction nanos ++ ['Z']

def Instant.render (t : Instant) : String := String.ofList t.chars

/-! ## Reading -/

/-- Reads at least one and at most `width` digits. -/
def readNumber (width : Nat) (cs : List Char) : Option (Nat × List Char) :=
  let ds := (cs.take width).takeWhile isDigit
  if ds.isEmpty then none else (readDigits 10 0 ds).map (·, cs.drop ds.length)

/-- Reads one part of a date or a time after blanks. -/
def readPart (width : Nat) (cs : List Char) : Option (Nat × List Char) :=
  readNumber width (trimStart cs)

/-- Reads a year: four digits at most, or any number of them after a sign. -/
def readYear (cs : List Char) : Option (Int × List Char) :=
  match trimStart cs with
  | '-' :: r => (readNumber r.length r).map fun (n, r) => (-(n : Int), r)
  | '+' :: r => (readNumber r.length r).map fun (n, r) => ((n : Int), r)
  | r => (readNumber 4 r).map fun (n, r) => ((n : Int), r)

/-- Passes over blanks and a separator. -/
def readMark (mark : Char) (cs : List Char) : Option (List Char) :=
  match trimStart cs with
  | c :: r => if c = mark then some r else none
  | [] => none

/-- Reads the decimal places of the second in nanoseconds; places after the ninth are dropped. -/
def readFraction (cs : List Char) : Option (Nat × List Char) :=
  match cs with
  | '.' :: r => do
    let (n, rest) ← readNumber 9 r
    let places := r.length - rest.length
    return (n * Nat.pow 10 (9 - places), rest.dropWhile isDigit)
  | r => some (0, r)

def readTwo : List Char → Option (Nat × List Char)
  | a :: b :: r => if isDigit a && isDigit b then (readDigits 10 0 [a, b]).map (·, r) else none
  | _ => none

/-- Reads an offset from UTC in seconds: `UTC`, `Z`, or a sign, two digits of hours and two of minutes
with colons and blanks between them. -/
def readOffset (cs : List Char) : Option (Int × List Char) :=
  let signed := fun (sign : Int) (r : List Char) => do
    let (hours, r) ← readTwo r
    let (minutes, r) ← readTwo (r.dropWhile fun c => c = ':' || isBlank c)
    if 60 ≤ minutes then none else some (sign * (hours * 3600 + minutes * 60 : Nat), r)
  match cs with
  | '+' :: r => signed 1 r
  | '-' :: r => signed (-1) r
  | '\u2212' :: r => signed (-1) r
  | 'Z' :: r => some (0, r)
  | 'z' :: r => some (0, r)
  | a :: b :: c :: r =>
    if [a, b, c].map Char.toLower = ['u', 't', 'c'] then some (0, r) else none
  | _ => none

/-- The date and time of a text, in its own offset. -/
def readLocal (cs : List Char) : Option (Date × Int × Nat × List Char) := do
  let (year, cs) ← readYear cs
  let (month, cs) ← readPart 2 (← readMark '-' cs)
  let (day, cs) ← readPart 2 (← readMark '-' cs)
  let cs ← match cs with
    | c :: r => if c = 't' ∨ c = 'T' ∨ c = ' ' then some r else none
    | [] => none
  let (hour, cs) ← readPart 2 cs
  let (minute, cs) ← readPart 2 (← readMark ':' cs)
  let (second, cs) ← readPart 2 (← readMark ':' cs)
  let (nanos, cs) ← readFraction cs
  let date : Date := ⟨year, month, day⟩
  if !date.valid || 24 ≤ hour || 60 ≤ minute || 61 ≤ second then none else
  let ofDay : Int := hour * 3600 + minute * 60 + min second 59
  return (date, ofDay, if second = 60 then nanos + 1000000000 else nanos, cs)

def Instant.parseChars? (cs : List Char) : Option Instant := do
  let (date, ofDay, nanos, cs) ← readLocal cs
  let (offset, cs) ← readOffset (trimStart cs)
  let secs := date.toDays * secondsPerDay + ofDay
  let t : Instant := ⟨secs - offset, nanos⟩
  if (trimStart cs).isEmpty && offset.natAbs < 86400 && (⟨secs, 0⟩ : Instant).inRange && t.inRange
  then return t else none

def Instant.parse? (s : String) : Option Instant := Instant.parseChars? s.toList

end DeployWatch.Time
