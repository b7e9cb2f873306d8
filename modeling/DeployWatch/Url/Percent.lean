/-!
# Percent escapes

* `escape`: writes characters of a set, and all that is not printable ASCII, as escapes of their bytes;
* `unescape`: the bytes that a text with escapes stands for.
-/

namespace DeployWatch.Url

/-- The upper-case hexadecimal digit of a number below sixteen. -/
def hexDigit (n : Nat) : Char := if n < 10 then Char.ofNat (48 + n) else Char.ofNat (55 + n)

def escapeByte (b : UInt8) : List Char := ['%', hexDigit (b.toNat / 16), hexDigit (b.toNat % 16)]

/-- Whether a character stands for itself in every part of an address. -/
def isPlain (c : Char) : Bool := 0x20 ≤ c.toNat && c.toNat < 0x7F

/-- One character, escaped if it is reserved or not plain. -/
def escapeChar (reserved : Char → Bool) (c : Char) : List Char :=
  if isPlain c && !reserved c then [c] else (String.utf8EncodeChar c).flatMap escapeByte

/-- A text with its reserved characters escaped. -/
def escape (reserved : Char → Bool) (cs : List Char) : List Char := cs.flatMap (escapeChar reserved)

/-- The value of a hexadecimal digit. -/
def hexValue (c : Char) : Option Nat :=
  if '0' ≤ c ∧ c ≤ '9' then some (c.toNat - 48)
  else if 'A' ≤ c ∧ c ≤ 'F' then some (c.toNat - 55)
  else if 'a' ≤ c ∧ c ≤ 'f' then some (c.toNat - 87)
  else none

/-- The bytes that a text stands for; a percent sign without two digits after it stands for itself. -/
def unescape : List Char → List UInt8
  | [] => []
  | '%' :: a :: b :: rest =>
    match hexValue a, hexValue b with
    | some x, some y => UInt8.ofNat (x * 16 + y) :: unescape rest
    | _, _ => String.utf8EncodeChar '%' ++ unescape (a :: b :: rest)
  | c :: rest => String.utf8EncodeChar c ++ unescape rest

/-! ## Reserved characters of the parts of an address -/

/-- Reserved in a fragment. -/
def inFragment (c : Char) : Bool := [' ', '"', '<', '>', '\x60'].contains c

/-- Reserved in a query. -/
def inQuery (c : Char) : Bool := [' ', '"', '#', '<', '>'].contains c

/-- Reserved in a path. -/
def inPath (c : Char) : Bool := inFragment c || ['#', '?', '^', '\x7b', '\x7d'].contains c

/-- Reserved in one segment of a path. -/
def inSegment (c : Char) : Bool := inPath c || c == '/' || c == '%'

end DeployWatch.Url
