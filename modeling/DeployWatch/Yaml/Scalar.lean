import DeployWatch.Number.Binary64
import DeployWatch.Yaml.Token

/-!
# What scalars stand for

A plain scalar is null, a truth value, a number or a text, by the first of these that fits. A number
with leading zeros is a text.

* `Scalar`, `Scalar.ofPlain`: the value of a plain scalar;
* `Scalar.ofTagged?`: the value of a scalar with a tag.
-/

namespace DeployWatch.Yaml

open DeployWatch.Number (Binary64 natOfDigits isDigit)

inductive Scalar where
  | null
  | bool (b : Bool)
  /-- A whole number of at most 128 bits. -/
  | int (n : Int)
  | float (f : Binary64)
  | text (s : String)
  deriving DecidableEq, Repr, Inhabited

namespace Scalar

/-- The spellings of null. -/
def isNullWord (s : String) : Bool := ["null", "Null", "NULL", "~"].contains s

/-- The spellings of the truth values. -/
def boolOfText (s : String) : Option Bool :=
  if ["true", "True", "TRUE"].contains s then some true
  else if ["false", "False", "FALSE"].contains s then some false
  else none

/-- Digits after a leading zero and an optional sign. -/
def hasLeadingZero (cs : List Char) : Bool :=
  let cs := match cs with
    | '+' :: r => r
    | '-' :: r => r
    | r => r
  match cs with
  | '0' :: d :: r => (d :: r).all isDigit
  | _ => false

/-- A number after a base mark. -/
def ofBase : List Char → Option Nat
  | '0' :: 'x' :: r => natOfDigits 16 r
  | '0' :: 'o' :: r => natOfDigits 8 r
  | '0' :: 'b' :: r => natOfDigits 2 r
  | _ => none

/-- A number without a minus sign, below a bound. -/
def unsigned (bound : Nat) (cs : List Char) : Option Int :=
  let digits := match cs with
    | '+' :: r => r
    | r => r
  let n := match ofBase digits with
    | some n => some n
    | none => if hasLeadingZero cs then none else natOfDigits 10 digits
  n.bind fun n => if n < bound then some (n : Int) else none

/-- A number after a minus sign, whose magnitude is at most `bound`. -/
def negative (bound : Nat) (cs : List Char) : Option Int :=
  match cs with
  | '-' :: digits =>
    let n := match ofBase digits with
      | some n => some n
      | none => if hasLeadingZero cs then none else natOfDigits 10 digits
    n.bind fun n => if n ≤ bound then some (-(n : Int)) else none
  | _ => none

/-- A whole number of at most 128 bits. -/
def intOfText (s : String) : Option Int :=
  let cs := s.toList
  (unsigned (Nat.pow 2 128) cs).or (negative (Nat.pow 2 127) cs)

/-- A floating-point number: the words of infinity and of no number, or a finite literal. -/
def floatOfText (s : String) : Option Binary64 :=
  let cs := s.toList
  let body := match cs with
    | '+' :: r => r
    | r => r
  if cs.head? = some '+' ∧ (body.head? = some '+' ∨ body.head? = some '-') then none
  else
    let word := String.ofList body
    if [".inf", ".Inf", ".INF"].contains word then some (.infinite false)
    else if ["-.inf", "-.Inf", "-.INF"].contains s then some (.infinite true)
    else if [".nan", ".NaN", ".NAN"].contains s then some .nan
    else (Binary64.ofText word).filter Binary64.isFinite

def ofPlain (s : String) : Scalar :=
  if s.isEmpty || isNullWord s then null
  else match boolOfText s with
    | some b => bool b
    | none =>
      match intOfText s with
      | some n => int n
      | none =>
        if hasLeadingZero s.toList then text s
        else match floatOfText s with
          | some f => float f
          | none => text s

/-- A standard tag. -/
def standardTag (name : String) : Tag := .ofString ("tag:yaml.org,2002:" ++ name)

/-- The value of a scalar, unless its tag is local or its text does not fit the tag. -/
def ofTagged? (tag : Option Tag) (style : ScalarStyle) (s : String) : Option Scalar :=
  let untagged := if style = .plain then ofPlain s else text s
  match tag with
  | none => some untagged
  | some t =>
    if t.isLocal then none
    else if t.startsLocal then some untagged
    else if t = standardTag "bool" then (boolOfText s).map bool
    else if t = standardTag "int" then (intOfText s).map int
    else if t = standardTag "float" then (floatOfText s).map float
    else if t = standardTag "null" then (if isNullWord s then some null else none)
    else some (text s)

/-- Whether a text would be read as something else than a text if it were written plainly. -/
def needsQuotes (s : String) : Bool :=
  match ofPlain s with
  | text s => hasLeadingZero s.toList
  | _ => true

end Scalar

end DeployWatch.Yaml
