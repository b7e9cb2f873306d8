import DeployWatch.Yaml.Document

/-!
# Writing YAML

Collections are written as blocks indented by two columns, a sequence inside a mapping at the column of
its key; empty collections are written in brackets. A scalar keeps the style asked for unless its text
does not allow it.

* `Analysis`, `finalStyle`: what a text allows and the style it is written in;
* `Sheet`: the text so far with the state of its last line;
* `Node.render`: the text of a document.
-/

namespace DeployWatch.Yaml

/-! ## Styles -/

/-- Characters that can be written as they are. -/
def isPlainPrintable (c : Char) : Bool :=
  let n := c.toNat
  n == 10 || (0x20 ≤ n && n ≤ 0x7E) || (0xA0 ≤ n && n ≤ 0xD7FF) ||
    (0xE000 ≤ n && n ≤ 0xFFFD && n != 0xFEFF) || 0x10000 ≤ n

/-- What a text rules out. -/
structure Analysis where
  multiline : Bool
  plain : Bool
  singleQuoted : Bool
  block : Bool
  deriving DecidableEq, Repr

/-- Marks at the start of a text that cannot stand there in plain style. -/
def opensMark (c : Char) (next : List Char) : Bool :=
  "#,[]\x7b\x7d&*!|>'\"%@\x60".toList.contains c || ([ '?', ':', '-'].contains c && atEndOrBlank next)

/-- Whether a mark stands inside a text where plain style would read it: a colon before a blank or a
number sign after one. -/
def holdsMark : List Char → Bool
  | c :: d :: rest =>
    (d == ':' && atEndOrBlank rest) || (d == '#' && (isSpaceOrTab c || isBreak c)) || holdsMark (d :: rest)
  | _ => false

/-- Whether a character of the first class stands right before one of the second. -/
def adjacent (p q : Char → Bool) : List Char → Bool
  | c :: d :: rest => (p c && q d) || adjacent p q (d :: rest)
  | _ => false

def analyse (s : List Char) : Analysis :=
  let isSpace := fun c => c == ' '
  let ends := fun (p : Char → Bool) => s.head?.any p || s.getLast?.any p
  let breaks := s.any isBreak
  let special := s.any fun c => !isPlainPrintable c
  let marks := match s with
    | c :: next => opensMark c next || holdsMark s || s.take 3 == ['-', '-', '-'] ||
        s.take 3 == ['.', '.', '.']
    | [] => false
  let breakSpace := adjacent isBreak isSpace s
  let spaceBreak := adjacent isSpace isBreak s || special
  { multiline := breaks
    plain := !(ends isSpace || breaks || breakSpace || spaceBreak || marks)
    singleQuoted := !(breakSpace || spaceBreak)
    block := !(s.getLast?.any isSpace || spaceBreak) }

/-- The style a scalar is written in; `simpleKey` says that it must stay on its line. -/
def finalStyle (simpleKey : Bool) (style : ScalarStyle) (s : List Char) : ScalarStyle :=
  let a := analyse s
  let style := if simpleKey && a.multiline then .doubleQuoted else style
  let style := if style = .plain ∧ (!a.plain ∨ (s.isEmpty ∧ simpleKey)) then .singleQuoted else style
  let style := if style = .singleQuoted ∧ !a.singleQuoted then .doubleQuoted else style
  if (style = .literal ∨ style = .folded) ∧ (!a.block ∨ simpleKey) then .doubleQuoted else style

/-! ## The written text -/

/-- Text written so far. -/
structure Sheet where
  /-- The characters, last first. -/
  written : List Char := []
  column : Nat := 0
  /-- Whether a blank precedes. -/
  spaced : Bool := true
  /-- Whether the line so far is indentation. -/
  indenting : Bool := true

namespace Sheet

def put (s : Sheet) (c : Char) : Sheet := { s with written := c :: s.written, column := s.column + 1 }

def puts (s : Sheet) (cs : List Char) : Sheet := cs.foldl put s

def putBreak (s : Sheet) (c : Char) : Sheet := { s with written := c :: s.written, column := 0 }

/-- Starts a line at a column, or goes on in one that is all indentation so far. -/
def indent (s : Sheet) (column : Nat) : Sheet :=
  let s := if !s.indenting || column < s.column || (s.column == column && !s.spaced)
    then s.putBreak '\n' else s
  let s := s.puts (List.replicate (column - s.column) ' ')
  { s with spaced := true, indenting := true }

/-- Writes a mark, after a blank if `apart`; `opens` says that the line still counts as
indentation. -/
def mark (s : Sheet) (m : Char) (apart spaced opens : Bool) : Sheet :=
  let s := if apart && !s.spaced then s.put ' ' else s
  { s.put m with spaced := spaced, indenting := s.indenting && opens }

def text (s : Sheet) : String := String.ofList s.written.reverse

end Sheet

/-! ## Scalars -/

/-- The letter of an escaped character. -/
def escapeLetter (c : Char) : Option Char :=
  [('\x00', '0'), ('\x07', 'a'), ('\x08', 'b'), ('\t', 't'), ('\n', 'n'), ('\x0b', 'v'), ('\x0c', 'f'),
    ('\r', 'r'), ('\x1b', 'e'), ('"', '"'), ('\\', '\\'), ('\u0085', 'N'), ('\u00a0', '_'),
    ('\u2028', 'L'), ('\u2029', 'P')].lookup c

/-- Upper-case hexadecimal digits of a width. -/
def upperHex (width n : Nat) : List Char :=
  let ds := (Nat.toDigits 16 n).map Char.toUpper
  List.replicate (width - ds.length) '0' ++ ds

/-- A character in double quotes. -/
def doubleQuotedChar (c : Char) : List Char :=
  if isPlainPrintable c && !isBreak c && c != '"' && c != '\\' then [c]
  else match escapeLetter c with
    | some l => ['\\', l]
    | none =>
      let n := c.toNat
      if n ≤ 0xFF then '\\' :: 'x' :: upperHex 2 n
      else if n ≤ 0xFFFF then '\\' :: 'u' :: upperHex 4 n
      else '\\' :: 'U' :: upperHex 8 n

/-- Writes the inside of a single-quoted scalar; after a line break the text goes on at a column. -/
def singleQuotedChars (column : Nat) : List Char → Bool → Sheet → Sheet
  | [], broken, s => if broken then s.indent column else s
  | c :: rest, broken, s =>
    if c = ' ' then singleQuotedChars column rest broken (s.put c)
    else if isBreak c then
      let s := if !broken && c == '\n' then s.putBreak '\n' else s
      singleQuotedChars column rest true { s.putBreak c with indenting := true }
    else
      let s := if broken then s.indent column else s
      let s := if c = '\x27' then s.put c else s
      singleQuotedChars column rest false { s.put c with indenting := false }

/-- Writes the lines of a literal scalar. -/
def literalChars (column : Nat) : List Char → Bool → Sheet → Sheet
  | [], _, s => s
  | c :: rest, broken, s =>
    if isBreak c then literalChars column rest true { s.putBreak c with indenting := true }
    else
      let s := if broken then s.indent column else s
      literalChars column rest false { s.put c with indenting := false }

/-- The marks after the indicator of a literal: its indentation if the text starts with a blank, and
what is to be kept of the breaks at its end. -/
def literalHints (s : List Char) : List Char :=
  let indent := if s.head?.any fun c => c == ' ' || isBreak c then ['2'] else []
  let chomp := match s.reverse with
    | [] => ['-']
    | [c] => if isBreak c then ['+'] else ['-']
    | c :: d :: _ => if isBreak c then (if isBreak d then ['+'] else []) else ['-']
  indent ++ chomp

/-- Writes a scalar in a final style inside a block at a column. -/
def writeScalar (column : Nat) (style : ScalarStyle) (text : List Char) (s : Sheet) : Sheet :=
  match style with
  | .plain =>
    let s := if !s.spaced && !text.isEmpty then s.put ' ' else s
    { s.puts text with spaced := false, indenting := false }
  | .singleQuoted =>
    let s := s.mark '\x27' true false false
    let s := (singleQuotedChars column text false s).mark '\x27' false false false
    { s with spaced := false, indenting := false }
  | .doubleQuoted =>
    let s := (s.mark '"' true false false).puts (text.flatMap doubleQuotedChar)
    { s.mark '"' false false false with spaced := false, indenting := false }
  | _ =>
    let s := ((s.mark '|' true false false).puts (literalHints text)).putBreak '\n'
    literalChars column text true { s with spaced := true, indenting := true }

/-! ## Nodes -/

/-- Whether a node can be a key on one line: a scalar of one line, or an empty collection, of at most
128 bytes. -/
def isSimpleKey : Node → Bool
  | .scalar _ _ s => !(s.toList.any isBreak) && s.utf8ByteSize ≤ 128
  | .sequence _ [] => true
  | .mapping _ [] => true
  | _ => false

/-- The column of a block inside the block at a column, none at the top. -/
def deeper : Option Nat → Nat
  | none => 0
  | some column => column + 2

mutual

/-- Writes a node inside the block at a column. `inMapping` says that it is part of a mapping, and
`simpleKey` that it is a key on its line. -/
def writeNode (column : Option Nat) (inMapping simpleKey : Bool) : Node → Sheet → Sheet
  | .scalar _ style text, s =>
    let inside := match column with
      | none => 2
      | some c => c + 2
    writeScalar inside (finalStyle simpleKey style text.toList) text.toList s
  | .sequence _ [], s => ((s.mark '[' true true false).mark ']' false false false)
  | .sequence _ items, s =>
    let itemColumn := if inMapping && !s.indenting then column.getD 0 else deeper column
    writeItems itemColumn items s
  | .mapping _ [], s => ((s.mark '\x7b' true true false).mark '\x7d' false false false)
  | .mapping _ entries, s => writeEntries (deeper column) entries s
  | .alias _, s => s

def writeItems (column : Nat) : List Node → Sheet → Sheet
  | [], s => s
  | n :: rest, s =>
    let s := (s.indent column).mark '-' true false true
    writeItems column rest (writeNode (some column) false false n s)

def writeEntries (column : Nat) : List (Node × Node) → Sheet → Sheet
  | [], s => s
  | (k, v) :: rest, s =>
    let s := s.indent column
    let s :=
      if isSimpleKey k then
        (writeNode (some column) true true k s).mark ':' false false false
      else
        let s := writeNode (some column) true false k (s.mark '?' true false true)
        (s.indent column).mark ':' true false true
    writeEntries column rest (writeNode (some column) true false v s)

end

/-- The text of a document. -/
def Node.render (n : Node) : String := ((writeNode none false false n {}).indent 0).text

end DeployWatch.Yaml
