import DeployWatch.Number.Binary64

/-!
# JSON text as read

Reading never stops at the first fault: the part of the text before it becomes a tree, and the fault
stays at the place where it was met. A decoder that goes through the tree in the order of the text
thus meets faults of the text and faults of the data in that order.

* `Fault`, `Doc`: the two kinds of fault and the tree;
* `Doc.read`: the tree of a text and the text after it;
* `Doc.skipFault`: the fault met by a decoder that only passes over a value.

Passing over a value is less strict than decoding it: surrogates may stand alone and numbers may be out
of range.
-/

namespace DeployWatch.Json

open DeployWatch.Number (Binary64 isDigit isHexDigit digitValue readDigits)

/-- A fault of the text: an impossible character, or the end of the text in the middle of a value. -/
inductive Fault where
  | malformed
  | cutShort
  deriving DecidableEq, Repr, Inhabited

/-- A number of the text: whole and without a fraction, exponent or negative zero, or any other. -/
inductive Numeral where
  | whole (n : Int)
  | other
  deriving DecidableEq, Repr, Inhabited

/-- A value of the text with the faults inside it. -/
inductive Doc where
  | null
  | bool (b : Bool)
  | number (n : Except Fault Numeral)
  | string (s : Except Fault String)
  /-- Items up to the end or to the fault that a reader passing over them meets. -/
  | array (items : List Doc) (ending : Option Fault)
  /-- Members up to the end or to the fault that a reader passing over them meets. -/
  | object (members : List (Except Fault String × Doc)) (ending : Option Fault)
  /-- An object with something else than a text in place of its first name. -/
  | misnamed (first : Doc)
  /-- No complete value: the faults for decoding and for passing over, and whether a number or a
  word had begun. -/
  | broken (strict lax : Fault) (inWord : Bool)
  deriving Inhabited

/-- The fault that a reader passing over the value meets. -/
def Doc.skipFault : Doc → Option Fault
  | .array _ ending => ending
  | .object _ ending => ending
  | .misnamed _ => some .malformed
  | .broken _ lax _ => some lax
  | _ => none

/-! ## Characters -/

def isSpace (c : Char) : Bool := c = ' ' || c = '\n' || c = '\t' || c = '\r'

def skipSpace (cs : List Char) : List Char := cs.dropWhile isSpace

/-- Fewer than four bytes are left. -/
def underFourBytes (cs : List Char) : Bool := (cs.take 4).foldl (fun n c => n + c.utf8Size) 0 < 4

/-- The fault of a hexadecimal escape without four digits. -/
def hexFault (cs : List Char) : Fault := if underFourBytes cs then .cutShort else .malformed

/-- The number of four hexadecimal digits. -/
def fourHex (a b c d : Char) : Option Nat := readDigits 16 0 [a, b, c, d]

/-- The character of a one-letter escape. -/
def shortEscape : Char → Option Char
  | '"' => some '"'
  | '\\' => some '\\'
  | '/' => some '/'
  | 'b' => some '\x08'
  | 'f' => some '\x0c'
  | 'n' => some '\n'
  | 'r' => some '\r'
  | 't' => some '\t'
  | _ => none

/-! ## Texts -/

/-- Passes over the rest of a quoted text: the text after its closing quote. -/
def skipQuoted : List Char → Except Fault (List Char)
  | [] => .error .cutShort
  | '"' :: rest => .ok rest
  | ['\\'] => .error .cutShort
  | '\\' :: 'u' :: a :: b :: c :: d :: rest =>
    match fourHex a b c d with
    | some _ => skipQuoted rest
    | none => .error (hexFault (a :: b :: c :: d :: rest))
  | '\\' :: 'u' :: rest => .error (hexFault rest)
  | '\\' :: c :: rest => if (shortEscape c).isSome then skipQuoted rest else .error .malformed
  | c :: rest => if c.toNat < 0x20 then .error .malformed else skipQuoted rest

/-- The first of two halves of a character beyond the basic plane. -/
def isHighHalf (n : Nat) : Bool := 0xD800 ≤ n && n ≤ 0xDBFF

/-- The second of two halves of a character beyond the basic plane. -/
def isLowHalf (n : Nat) : Bool := 0xDC00 ≤ n && n ≤ 0xDFFF

/-- The character made of two halves. -/
def joinHalves (high low : Nat) : Char :=
  Char.ofNat ((high - 0xD800) * 0x400 + (low - 0xDC00) + 0x10000)

/-- Decodes the rest of a quoted text. -/
def readQuoted : List Char → Except Fault (List Char)
  | [] => .error .cutShort
  | '"' :: _ => .ok []
  | ['\\'] => .error .cutShort
  | '\\' :: 'u' :: a :: b :: c :: d :: rest =>
    match fourHex a b c d with
    | none => .error (hexFault (a :: b :: c :: d :: rest))
    | some n =>
      if isLowHalf n then .error .malformed
      else if !isHighHalf n then (Char.ofNat n :: ·) <$> readQuoted rest
      else match rest with
        | [] => .error .cutShort
        | ['\\'] => .error .cutShort
        | '\\' :: 'u' :: a2 :: b2 :: c2 :: d2 :: rest2 =>
          match fourHex a2 b2 c2 d2 with
          | none => .error (hexFault (a2 :: b2 :: c2 :: d2 :: rest2))
          | some low =>
            if isLowHalf low then (joinHalves n low :: ·) <$> readQuoted rest2
            else .error .malformed
        | '\\' :: 'u' :: rest2 => .error (hexFault rest2)
        | _ => .error .malformed
  | '\\' :: 'u' :: rest => .error (hexFault rest)
  | '\\' :: c :: rest =>
    match shortEscape c with
    | some e => (e :: ·) <$> readQuoted rest
    | none => .error .malformed
  | c :: rest => if c.toNat < 0x20 then .error .malformed else (c :: ·) <$> readQuoted rest

/-- The two faults of an unfinished quoted text. -/
def quotedFaults (cs : List Char) (lax : Fault) : Fault × Fault :=
  match readQuoted cs with
  | .error strict => (strict, lax)
  | .ok _ => (lax, lax)

def quotedText (cs : List Char) : Except Fault String := String.ofList <$> readQuoted cs

/-! ## Numbers and words -/

/-- The rest of the text after a word, given what is still expected of it. -/
def readWord : List Char → List Char → Except Fault (List Char)
  | [], cs => .ok cs
  | _ :: _, [] => .error .cutShort
  | w :: ws, c :: cs => if c = w then readWord ws cs else .error .malformed

/-- The fault for decoding at a place where a digit must follow; for passing over it is always
`malformed`. -/
def digitFault : List Char → Fault
  | [] => .cutShort
  | _ => .malformed

/-- Appends digits to a number for as long as it fits into 64 bits; the digits left over follow it. -/
def fitDigits : Nat → List Char → Nat × List Char
  | n, [] => (n, [])
  | n, d :: ds =>
    let next := n * 10 + (digitValue d).getD 0
    if next < Nat.pow 2 64 then fitDigits next ds else (n, d :: ds)

/-- The 64-bit digits and the exponent that stand for the digits before and after a point. A digit left
over before the point raises the exponent, one left over after it is lost. -/
def significand (whole places : List Char) : Nat × Int :=
  let (n, excess) := fitDigits 0 whole
  let (n, lost) := fitDigits n places
  (n, (excess.length : Int) - (places.length - lost.length : Nat))

/-- Whether `digits · 10 ^ e` is out of range: the nearest floating-point numbers of both factors are
multiplied and the product rounds beyond all finite ones. A power of ten beyond the range is never
reached. -/
def outOfRange (digits : Nat) (e : Int) : Bool :=
  if digits = 0 ∨ e < 0 then false
  else if 308 < e then true
  else match Binary64.ofFraction false digits 1, Binary64.ofDecimal false 1 e with
    | .finite _ m i, .finite _ n j =>
      let (num, den) := Binary64.fraction (m * n) (i + j)
      (Nat.pow 2 1024 - Nat.pow 2 970) * den ≤ num
    | _, _ => true

/-- A number with a fraction or an exponent, given the digits before and after its point. -/
def readExponent (whole places : List Char) (cs : List Char) : Doc × List Char :=
  let (digits, place) := significand whole places
  let finish := fun (e : Int) (rest : List Char) =>
    (Doc.number (if outOfRange digits (place + e) then .error .malformed else .ok .other), rest)
  match cs with
  | c :: rest =>
    if c = 'e' ∨ c = 'E' then
      let (down, rest) := match rest with
        | '-' :: r => (true, r)
        | '+' :: r => (false, r)
        | r => (false, r)
      let ds := rest.takeWhile isDigit
      if ds.isEmpty then (.broken (digitFault rest) .malformed true, rest)
      else
        let x : Int := (readDigits 10 0 ds).getD 0
        finish (if down then -x else x) (rest.dropWhile isDigit)
    else finish 0 cs
  | [] => finish 0 cs

/-- A number without fraction and exponent. -/
def wholeNumber (negative : Bool) (ds : List Char) : Doc :=
  let n := (readDigits 10 0 ds).getD 0
  let (digits, place) := significand ds []
  if negative && n == 0 then .number (.ok .other)
  else if outOfRange digits place then .number (.error .malformed)
  else .number (.ok (.whole (if negative then -n else n)))

/-- Reads a number after its sign. -/
def readNumber (negative : Bool) (cs : List Char) : Doc × List Char :=
  let ds := cs.takeWhile isDigit
  let rest := cs.dropWhile isDigit
  match ds with
  | [] => (.broken (digitFault cs) .malformed true, cs)
  | '0' :: _ :: _ => (.broken .malformed .malformed true, cs)
  | _ =>
    match rest with
    | '.' :: r =>
      let ps := r.takeWhile isDigit
      if ps.isEmpty then (.broken (digitFault r) .malformed true, r)
      else readExponent ds ps (r.dropWhile isDigit)
    | c :: _ =>
      if c = 'e' ∨ c = 'E' then readExponent ds [] rest
      else (wholeNumber negative ds, rest)
    | [] => (wholeNumber negative ds, rest)

/-! ## Values -/

/-- A word of the language. -/
def wordDoc (word : List Char) (value : Doc) (cs : List Char) : Doc × List Char :=
  match readWord word cs with
  | .ok rest => (value, rest)
  | .error f => (.broken f f true, cs)

mutual

/-- Reads a value at the head of a text, within a number of steps. -/
def Doc.readWithin : Nat → List Char → Doc × List Char
  | 0, cs => (.broken .malformed .malformed false, cs)
  | fuel + 1, cs =>
    match skipSpace cs with
    | [] => (.broken .cutShort .cutShort false, [])
    | 'n' :: rest => wordDoc ['u', 'l', 'l'] .null rest
    | 't' :: rest => wordDoc ['r', 'u', 'e'] (.bool true) rest
    | 'f' :: rest => wordDoc ['a', 'l', 's', 'e'] (.bool false) rest
    | '"' :: rest =>
      match skipQuoted rest with
      | .ok after => (.string (quotedText rest), after)
      | .error lax => let (s, l) := quotedFaults rest lax; (.broken s l false, [])
    | '-' :: rest => readNumber true rest
    | '[' :: rest =>
      match skipSpace rest with
      | [] => (.array [] (some .cutShort), [])
      | ']' :: after => (.array [] none, after)
      | first => let (items, ending, after) := itemsWithin fuel first; (.array items ending, after)
    | '\x7b' :: rest =>
      match skipSpace rest with
      | [] => (.object [] (some .cutShort), [])
      | '\x7d' :: after => (.object [] none, after)
      | '"' :: name =>
        let (members, ending, after) := membersWithin fuel name
        (.object members ending, after)
      | other => let (first, after) := Doc.readWithin fuel other; (.misnamed first, after)
    | c :: rest =>
      if isDigit c then readNumber false (c :: rest)
      else (.broken .malformed .malformed false, c :: rest)

/-- Reads the items of an array from the start of one of them. -/
def itemsWithin : Nat → List Char → List Doc × Option Fault × List Char
  | 0, cs => ([], some .malformed, cs)
  | fuel + 1, cs =>
    let (item, rest) := Doc.readWithin fuel cs
    match item.skipFault with
    | some f => ([item], some f, rest)
    | none =>
      match skipSpace rest with
      | [] => ([item], some .cutShort, [])
      | ']' :: after => ([item], none, after)
      | ',' :: after =>
        match skipSpace after with
        | ']' :: after => ([item], some .malformed, after)
        | next => let (items, ending, after) := itemsWithin fuel next; (item :: items, ending, after)
      | other => ([item], some .malformed, other)

/-- Reads the members of an object from behind the opening quote of a name. -/
def membersWithin : Nat → List Char → List (Except Fault String × Doc) × Option Fault × List Char
  | 0, cs => ([], some .malformed, cs)
  | fuel + 1, cs =>
    match skipQuoted cs with
    | .error lax =>
      let (s, l) := quotedFaults cs lax
      ([(.error s, .broken s l false)], some l, [])
    | .ok rest =>
      let name := quotedText cs
      match skipSpace rest with
      | ':' :: rest =>
        let (value, rest) := Doc.readWithin fuel rest
        match value.skipFault with
        | some f => ([(name, value)], some f, rest)
        | none =>
          match skipSpace rest with
          | [] => ([(name, value)], some .cutShort, [])
          | '\x7d' :: after => ([(name, value)], none, after)
          | ',' :: after =>
            match skipSpace after with
            | [] => ([(name, value), (.error .cutShort, .broken .cutShort .cutShort false)], some .cutShort, [])
            | '"' :: next =>
              let (members, ending, after) := membersWithin fuel next
              ((name, value) :: members, ending, after)
            | other => ([(name, value)], some .malformed, other)
          | other => ([(name, value)], some .malformed, other)
      | [] => ([(name, .broken .cutShort .cutShort false)], some .cutShort, [])
      | other => ([(name, .broken .malformed .malformed false)], some .malformed, other)

end

/-- Reads the value at the head of a text; what is left of the text follows it. -/
def Doc.read (cs : List Char) : Doc × List Char := Doc.readWithin (2 * cs.length + 2) cs

end DeployWatch.Json
