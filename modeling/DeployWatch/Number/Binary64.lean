import DeployWatch.Number.Digits

/-!
# Binary floating point with 53 bits

A finite number is `mantissa · 2 ^ exponent`; reading a decimal takes the nearest such number, the
even one of two equally near, and writing takes the fewest decimal digits that read back.

* `Binary64`, `Binary64.ofDecimal`: the numbers and the nearest number to a decimal;
* `Binary64.shortest`: the fewest digits that read back, nearest first;
* `Binary64.ofText`: the grammar of floating-point literals;
* `Binary64.positional`, `Binary64.compact`: the two written forms.
-/

namespace DeployWatch.Number

/-- A binary floating-point number. A finite one has `mantissa < 2 ^ 53` and `-1074 ≤ exponent`, and
its exponent is the least that allows this. -/
inductive Binary64 where
  | nan
  | infinite (negative : Bool)
  | finite (negative : Bool) (mantissa : Nat) (exponent : Int)
  deriving DecidableEq, Repr, Inhabited

namespace Binary64

/-- The number of bits of `n`, less one. -/
def topBit (n : Nat) : Int := (Nat.log2 n : Int)

/-- `num / den` as a fraction `q + r / d` in units of `2 ^ e`. -/
def scaled (num den : Nat) (e : Int) : Nat × Nat × Nat :=
  let d := if e < 0 then den else den * Nat.pow 2 e.toNat
  let n := if e < 0 then num * Nat.pow 2 (-e).toNat else num
  (n / d, n % d, d)

/-- The nearest number to the fraction `num / den`, of two equally near the one with even mantissa. -/
def ofFraction (negative : Bool) (num den : Nat) : Binary64 :=
  if num = 0 then finite negative 0 (-1074) else
  let guess := topBit num - topBit den - 53
  let (q, _, _) := scaled num den guess
  let fit := if Nat.pow 2 54 ≤ q then guess + 2 else if Nat.pow 2 53 ≤ q then guess + 1 else guess
  let e := max fit (-1074)
  let (q, r, d) := scaled num den e
  let q := if d < 2 * r ∨ (2 * r = d ∧ q % 2 = 1) then q + 1 else q
  let (q, e) := if q = Nat.pow 2 53 then (Nat.pow 2 52, e + 1) else (q, e)
  if 971 < e then infinite negative else finite negative q e

/-- The nearest number to `digits · 10 ^ e`. -/
def ofDecimal (negative : Bool) (digits : Nat) (e : Int) : Binary64 :=
  let size : Int := (decimal digits).length
  if digits = 0 then finite negative 0 (-1074)
  else if 310 < size + e then infinite negative
  else if size + e < -330 then finite negative 0 (-1074)
  else if e < 0 then ofFraction negative digits (Nat.pow 10 (-e).toNat)
  else ofFraction negative (digits * Nat.pow 10 e.toNat) 1

def ofInt (n : Int) : Binary64 := ofFraction (n < 0) n.natAbs 1

def isFinite : Binary64 → Bool
  | finite .. => true
  | _ => false

/-- Equality of values: the two zeros are equal. -/
def sameValue (a b : Binary64) : Bool :=
  match a, b with
  | finite _ 0 _, finite _ 0 _ => true
  | a, b => a = b

/-! ## Fewest digits -/

/-- The value of a finite number as a fraction. -/
def fraction (mantissa : Nat) (e : Int) : Nat × Nat :=
  if e < 0 then (mantissa, Nat.pow 2 (-e).toNat) else (mantissa * Nat.pow 2 e.toNat, 1)

/-- Whether `num / den < 10 ^ p`. -/
def belowPower (num den : Nat) (p : Int) : Bool :=
  if p < 0 then num * Nat.pow 10 (-p).toNat < den else num < den * Nat.pow 10 p.toNat

/-- The decimal exponent of the leading digit of `num / den`. -/
def leadingPlace (num den : Nat) : Int :=
  let guess := (topBit num - topBit den) * 30103 / 100000
  if belowPower num den (guess - 1) then guess - 2
  else if belowPower num den guess then guess - 1
  else if belowPower num den (guess + 1) then guess
  else if belowPower num den (guess + 2) then guess + 1
  else guess + 2

/-- Among the two neighbours of `num / den` on the grid of `10 ^ place`, the nearer one that reads
back as `target`. -/
def neighbour? (target : Binary64) (num den : Nat) (place : Int) : Option Nat :=
  let n := if place < 0 then num * Nat.pow 10 (-place).toNat else num
  let d := if place < 0 then den else den * Nat.pow 10 place.toNat
  let low := n / d
  let rest := n % d
  let readsBack := fun k => ofDecimal false k place = target
  let order := if 2 * rest < d ∨ (2 * rest = d ∧ low % 2 = 0) then [low, low + 1] else [low + 1, low]
  order.find? readsBack

/-- The first grid, from one digit on, with a point that reads back. -/
def shortestFrom (target : Binary64) (num den : Nat) (top : Int) : Nat → Nat → Nat × Int
  | 0, count => (num / den, count)
  | fuel + 1, count =>
    let place := top - (count : Int)
    match neighbour? target num den place with
    | some k => (k, place)
    | none => shortestFrom target num den top fuel (count + 1)

/-- The number without its trailing zeros, each of which moves the exponent up. -/
def dropZeros : Nat → Nat → Int → Nat × Int
  | 0, digits, e => (digits, e)
  | fuel + 1, digits, e =>
    if digits ≠ 0 ∧ digits % 10 = 0 then dropZeros fuel (digits / 10) (e + 1) else (digits, e)

/-- The fewest decimal digits, with their exponent, that read back as `mantissa · 2 ^ e`. -/
def shortest (mantissa : Nat) (e : Int) : Nat × Int :=
  if mantissa = 0 then (0, 0) else
  let (num, den) := fraction mantissa e
  let (k, place) := shortestFrom (finite false mantissa e) num den (leadingPlace num den) 18 0
  dropZeros 20 k place

/-! ## Written forms -/

/-- Digits without an exponent; a whole number has no point. -/
def positionalDigits (digits : Nat) (e : Int) : List Char :=
  let ds := decimal digits
  if 0 ≤ e then (if digits = 0 then ds else ds ++ List.replicate e.toNat '0')
  else
    let places := (-e).toNat
    if places < ds.length then
      ds.take (ds.length - places) ++ '.' :: ds.drop (ds.length - places)
    else '0' :: '.' :: List.replicate (places - ds.length) '0' ++ ds

private def signText (negative : Bool) : List Char := if negative then ['-'] else []

/-- The form without exponents: `1`, `0.25`, `100000000000000000000`. -/
def positional : Binary64 → String
  | nan => "NaN"
  | infinite neg => if neg then "-inf" else "inf"
  | finite neg m e =>
    let (k, place) := shortest m e
    String.ofList (signText neg ++ positionalDigits k place)

/-- The form with at least one decimal place, and an exponent outside the range from `1e-5` to
`1e16`. -/
def compactDigits (digits : Nat) (e : Int) : List Char :=
  let ds := decimal digits
  let point : Int := ds.length + e
  if digits = 0 then ['0', '.', '0']
  else if 0 ≤ e ∧ point ≤ 16 then positionalDigits digits e ++ ['.', '0']
  else if -5 < point ∧ point ≤ 16 then positionalDigits digits e
  else
    let mark := 'e' :: decimalInt (point - 1)
    match ds with
    | [d] => d :: mark
    | d :: rest => d :: '.' :: rest ++ mark
    | [] => mark

/-- The compact form of a finite number. -/
def compact (negative : Bool) (mantissa : Nat) (e : Int) : String :=
  let (k, place) := shortest mantissa e
  String.ofList (signText negative ++ compactDigits k place)

/-! ## Reading -/

/-- Reads digits, an optional point and an optional exponent; at least one digit comes before the
exponent. -/
def ofUnsigned (negative : Bool) (cs : List Char) : Option Binary64 :=
  let whole := cs.takeWhile isDigit
  let rest := cs.dropWhile isDigit
  let (places, rest) := match rest with
    | '.' :: r => (r.takeWhile isDigit, r.dropWhile isDigit)
    | r => ([], r)
  if whole.isEmpty && places.isEmpty then none else
  let digits := (readDigits 10 0 (whole ++ places)).getD 0
  let place : Int := -(places.length : Int)
  match rest with
  | [] => some (ofDecimal negative digits place)
  | c :: r =>
    if c = 'e' ∨ c = 'E' then
      let (down, r) := match r with
        | '-' :: r => (true, r)
        | '+' :: r => (false, r)
        | r => (false, r)
      if r.all isDigit then
        (natOfDigits 10 r).map fun x => ofDecimal negative digits (place + if down then -(x : Int) else x)
      else none
    else none

/-- Reads a floating-point literal: an optional sign, then digits or one of the words `inf`,
`infinity` and `nan` in any case. -/
def ofText (s : String) : Option Binary64 :=
  let (negative, cs) := match s.toList with
    | '-' :: r => (true, r)
    | '+' :: r => (false, r)
    | r => (false, r)
  let word := String.ofList (cs.map Char.toLower)
  if word = "nan" then some nan
  else if word = "inf" ∨ word = "infinity" then some (infinite negative)
  else ofUnsigned negative cs

end Binary64

end DeployWatch.Number
