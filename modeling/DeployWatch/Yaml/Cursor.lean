/-!
# Places in a YAML text

* `isBreak`, `isSpaceOrTab`, `atEndOrBlank`: the character classes of YAML;
* `isReadable`: the characters that may stand in a YAML text at all;
* `Cursor`: the rest of a text with its place. The index counts bytes and the column characters.
-/

namespace DeployWatch.Yaml

def isBreak (c : Char) : Bool :=
  c = '\r' || c = '\n' || c = '\u0085' || c = '\u2028' || c = '\u2029'

def isSpaceOrTab (c : Char) : Bool := c = ' ' || c = '\t'

/-- A space, a tab, a line break or the end of the text. -/
def atEndOrBlank : List Char → Bool
  | [] => true
  | c :: _ => isSpaceOrTab c || isBreak c

/-- Letters, digits, hyphen and underscore of ASCII. -/
def isNameChar (c : Char) : Bool := c.isAlphanum || c = '-' || c = '_'

/-- Characters allowed in a YAML text: no controls but tab and line breaks. -/
def isReadable (c : Char) : Bool :=
  let n := c.toNat
  n == 9 || n == 10 || n == 13 || (0x20 ≤ n && n ≤ 0x7E) || n == 0x85 || (0xA0 ≤ n && n ≤ 0xD7FF) ||
    (0xE000 ≤ n && n ≤ 0xFFFD) || 0x10000 ≤ n

/-- A place in a text. -/
structure Cursor where
  rest : List Char
  /-- The number of bytes before it. -/
  index : Nat := 0
  line : Nat := 0
  column : Nat := 0
  deriving Inhabited

/-- The number of bytes that characters are written with. -/
def byteCount : List Char → Nat
  | [] => 0
  | c :: cs => c.utf8Size + byteCount cs

namespace Cursor

/-- Passes over a number of characters of the line. -/
def skipN (c : Cursor) (n : Nat) : Cursor :=
  { c with rest := c.rest.drop n, index := c.index + byteCount (c.rest.take n), column := c.column + n }

def skip (c : Cursor) : Cursor := c.skipN 1

/-- Passes over a line break; carriage return and line feed together are one. -/
def skipBreak (c : Cursor) : Cursor :=
  match c.rest with
  | '\r' :: '\n' :: r => { rest := r, index := c.index + 2, line := c.line + 1, column := 0 }
  | b :: r => { rest := r, index := c.index + b.utf8Size, line := c.line + 1, column := 0 }
  | [] => c

/-- What the line break at the cursor reads as. -/
def breakText (c : Cursor) : List Char :=
  match c.rest with
  | '\u2028' :: _ => ['\u2028']
  | '\u2029' :: _ => ['\u2029']
  | b :: _ => if isBreak b then ['\n'] else []
  | [] => []

def head? (c : Cursor) : Option Char := c.rest.head?

def isAt (c : Cursor) (ch : Char) : Bool := c.rest.head? == some ch

/-- Whether the text from the cursor on, less its first `n` characters, starts with a blank or
ends. -/
def blankAfter (c : Cursor) (n : Nat) : Bool := atEndOrBlank (c.rest.drop n)

/-- Passes over the characters of a class, which holds no line breaks. -/
def skipWhile (c : Cursor) (p : Char → Bool) : Cursor := c.skipN (c.rest.takeWhile p).length

/-- Passes over the rest of the line. -/
def skipLine (c : Cursor) : Cursor := c.skipWhile fun ch => !isBreak ch

/-- Whether a document mark of three equal characters stands at the start of the line. -/
def atMark (c : Cursor) (ch : Char) : Bool :=
  c.column == 0 && c.rest.take 3 == [ch, ch, ch] && c.blankAfter 3

end Cursor

end DeployWatch.Yaml
