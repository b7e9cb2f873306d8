/-!
# Digits

Numbers written in a base of at most sixteen.

* `digitValue`: the value of one digit character;
* `natOfDigits`: the number a digit text stands for;
* `decimal`: the decimal text of a number.
-/

namespace DeployWatch.Number

/-- The value of a digit character, letters of either case standing for ten to fifteen. -/
def digitValue (c : Char) : Option Nat :=
  if '0' ≤ c ∧ c ≤ '9' then some (c.toNat - 48)
  else if 'a' ≤ c ∧ c ≤ 'f' then some (c.toNat - 87)
  else if 'A' ≤ c ∧ c ≤ 'F' then some (c.toNat - 55)
  else none

def isDigit (c : Char) : Bool := '0' ≤ c && c ≤ '9'

def isHexDigit (c : Char) : Bool := (digitValue c).isSome

/-- Reads digits of a base from left to right, starting from `acc`. -/
def readDigits (base : Nat) : Nat → List Char → Option Nat
  | acc, [] => some acc
  | acc, c :: rest =>
    match digitValue c with
    | some d => if d < base then readDigits base (acc * base + d) rest else none
    | none => none

/-- The number written by a nonempty text of digits in the base. -/
def natOfDigits (base : Nat) : List Char → Option Nat
  | [] => none
  | cs => readDigits base 0 cs

def decimal (n : Nat) : List Char := Nat.toDigits 10 n

/-- The decimal text of an integer, with a minus sign below zero. -/
def decimalInt (n : Int) : List Char :=
  if n < 0 then '-' :: decimal n.natAbs else decimal n.natAbs

/-- The decimal text of a number with zeros in front up to a width. -/
def decimalPadded (width n : Nat) : List Char :=
  let ds := decimal n
  List.replicate (width - ds.length) '0' ++ ds

end DeployWatch.Number
