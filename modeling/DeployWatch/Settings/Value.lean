import DeployWatch.Number.Binary64

/-!
# Values of settings

A setting is written as text and read as what it looks like; where something else is wanted it is turned
into that.

* `Value`, `Value.ofText`: a truth value, a whole number, another number, or text;
* `Value.text?`, `Value.natural?`, `Value.flag?`, `Value.number?`: a value as what is wanted;
* `Value.put`: a value put at a path of names and positions.
-/

namespace DeployWatch.Settings

open Number (Binary64 natOfDigits isDigit decimalInt)

/-- A value, or a tree of values. -/
inductive Value where
  | absent
  | flag (b : Bool)
  | whole (n : Int)
  | number (x : Binary64)
  | text (s : String)
  | list (items : List Value)
  | table (members : List (String × Value))
  deriving Inhabited

/-- Lower-case letters for those of ASCII. -/
def lower (s : String) : String := String.ofList (s.toList.map Char.toLower)

/-- Reads a whole number of 64 bits with an optional sign. -/
def wholeOf (s : String) : Option Int :=
  let (negative, ds) := match s.toList with
    | '-' :: r => (true, r)
    | '+' :: r => (false, r)
    | r => (false, r)
  if ds.all isDigit then
    match natOfDigits 10 ds with
    | some n =>
      let i : Int := if negative then -(n : Int) else n
      if -9223372036854775808 ≤ i ∧ i < 9223372036854775808 then some i else none
    | none => none
  else none

namespace Value

/-- Reads a text as a truth value, a whole number or another number, if it looks like one. -/
def ofScalar? (s : String) : Option Value :=
  if lower s = "true" then some (flag true)
  else if lower s = "false" then some (flag false)
  else match wholeOf s with
    | some n => some (whole n)
    | none => (Binary64.ofText s).map number

/-- Reads a text as what it looks like. -/
def ofText (s : String) : Value := (ofScalar? s).getD (text s)

/-! ## As what is wanted -/

/-- The truth value of a word. -/
def word? (s : String) : Option Bool :=
  if ["true", "on", "yes"].contains (lower s) then some true
  else if ["false", "off", "no"].contains (lower s) then some false
  else none

def text? : Value → Option String
  | text s => some s
  | flag b => some (if b then "true" else "false")
  | whole n => some (String.ofList (decimalInt n))
  | number x => some x.positional
  | _ => none

/-- The greatest number of 64 bits. -/
def maxNatural : Nat := 18446744073709551615

/-- The nearest natural number to a number, halves going up; what is out of range goes to the next number
in range, and the not-a-number to zero. -/
def roundedNatural : Binary64 → Nat
  | .nan => 0
  | .infinite negative => if negative then 0 else maxNatural
  | .finite true _ _ => 0
  | .finite false m e =>
    let (num, den) := Binary64.fraction m e
    min ((2 * num + den) / (2 * den)) maxNatural

/-- Reads a natural number of 64 bits with an optional plus sign. -/
def naturalOf (s : String) : Option Nat :=
  let ds := match s.toList with
    | '+' :: r => r
    | r => r
  if ds.all isDigit then (natOfDigits 10 ds).filter fun n => n ≤ maxNatural else none

/-- A value as a natural number below `bound`. -/
def natural? (bound : Nat) (v : Value) : Option Nat :=
  let n := match v with
    | whole n => if 0 ≤ n then some n.toNat else none
    | flag b => some (if b then 1 else 0)
    | number x => some (roundedNatural x)
    | text s =>
      match word? s with
      | some b => some (if b then 1 else 0)
      | none => naturalOf s
    | _ => none
  n.filter (· < bound)

/-- A value as a truth value: numbers are true unless they are zero. -/
def flag? : Value → Option Bool
  | flag b => some b
  | whole n => some (n ≠ 0)
  | number x => some (!x.sameValue (.finite false 0 (-1074)))
  | text s => if s = "1" then some true else if s = "0" then some false else word? s
  | _ => none

def number? : Value → Option Binary64
  | number x => some x
  | whole n => some (.ofInt n)
  | flag b => some (.ofInt (if b then 1 else 0))
  | text s =>
    match word? s with
    | some b => some (.ofInt (if b then 1 else 0))
    | none => Binary64.ofText s
  | _ => none

/-- A list of values as a list of natural numbers below `bound`. -/
def naturals? (bound : Nat) : Value → Option (List Nat)
  | list items => items.mapM (natural? bound)
  | _ => none

/-! ## Trees -/

/-- One part of a path into a tree. -/
inductive Part where
  | name (s : String)
  /-- A position in a list; one below zero counts from the end. -/
  | position (n : Int)
  deriving DecidableEq, Repr, Inhabited

/-- The members of a table, none for anything else. -/
def members : Value → List (String × Value)
  | table ms => ms
  | _ => []

/-- The items of a list, none for anything else. -/
def items : Value → List Value
  | list vs => vs
  | _ => []

/-- Puts a member into a table, in place of the one of that name. -/
def putMember (name : String) (v : Value) (ms : List (String × Value)) : List (String × Value) :=
  if ms.any fun m => m.1 == name then ms.map fun m => if m.1 = name then (name, v) else m
  else ms ++ [(name, v)]

/-- A list with room for a position, and the index of the position. Items that it lacks are absent: at the
end, or in front for a position that counts from the end. -/
def withRoom (n : Int) (vs : List Value) : List Value × Nat :=
  if 0 ≤ n then (vs ++ List.replicate (n.toNat + 1 - vs.length) absent, n.toNat)
  else (List.replicate (n.natAbs - vs.length) absent ++ vs, vs.length - n.natAbs)

/-- Puts a value at a path; what is in the way gives way. -/
def put (new : Value) : List Part → Value → Value
  | [], _ => new
  | .name s :: path, old =>
    table (putMember s (put new path ((old.members.lookup s).getD absent)) old.members)
  | .position n :: path, old =>
    let (vs, index) := withRoom n old.items
    list (vs.set index (put new path (vs.getD index absent)))

end Value

end DeployWatch.Settings
