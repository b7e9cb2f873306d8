import DeployWatch.Number.Digits

/-!
# Universally unique identifiers

An identifier is a number of 128 bits. It is written as thirty-two lower-case hexadecimal digits with
hyphens, and read with or without hyphens, in braces, or after `urn:uuid:` in any case.

* `Uuid`, `Uuid.nil`, `Uuid.render`, `Uuid.parse?`.
-/

namespace DeployWatch

open DeployWatch.Number (isHexDigit readDigits)

/-- A number of 128 bits. -/
structure Uuid where
  value : BitVec 128
  deriving DecidableEq, Repr, Inhabited

namespace Uuid

def nil : Uuid := ⟨0⟩

/-- The lowest `count` hexadecimal digits of a number. -/
def hexDigits (n : Nat) : Nat → List Char
  | 0 => []
  | count + 1 => hexDigits (n / 16) count ++ [Nat.digitChar (n % 16)]

/-- Puts hyphens between the five groups of digits. -/
def hyphenate (ds : List Char) : List Char :=
  ds.take 8 ++ '-' :: (ds.drop 8).take 4 ++ '-' :: (ds.drop 12).take 4 ++ '-' :: (ds.drop 16).take 4 ++
    '-' :: ds.drop 20

/-- The written form. -/
def chars (u : Uuid) : List Char := hyphenate (hexDigits u.value.toNat 32)

def render (u : Uuid) : String := String.ofList u.chars

/-- Reads thirty-two hexadecimal digits. -/
def ofHex? (ds : List Char) : Option Uuid :=
  if ds.length = 32 ∧ ds.all isHexDigit then (readDigits 16 0 ds).map fun n => ⟨BitVec.ofNat 128 n⟩
  else none

/-- Reads the form with hyphens. -/
def ofHyphenated? (cs : List Char) : Option Uuid :=
  let ds := cs.take 8 ++ (cs.drop 9).take 4 ++ (cs.drop 14).take 4 ++ (cs.drop 19).take 4 ++ cs.drop 24
  if cs = hyphenate ds then ofHex? ds else none

def parseChars? (cs : List Char) : Option Uuid :=
  match cs with
  | '\x7b' :: rest => if rest.getLast? = some '\x7d' then ofHyphenated? rest.dropLast else none
  | cs =>
    if (cs.take 9).map Char.toLower = "urn:uuid:".toList then ofHyphenated? (cs.drop 9)
    else if cs.length = 32 then ofHex? cs
    else ofHyphenated? cs

def parse? (s : String) : Option Uuid := parseChars? s.toList

end Uuid

end DeployWatch
