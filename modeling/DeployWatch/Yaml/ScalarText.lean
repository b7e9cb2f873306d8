import DeployWatch.Number.Digits
import DeployWatch.Yaml.Token

/-!
# Scalars of a YAML text

Each style folds lines and reads escapes by its own rules.

* `Blanks`: a run of blanks and line breaks between words and what it reads as;
* `plainText`, `quotedText`, `blockText`: the scalars of the three kinds of styles.
-/

namespace DeployWatch.Yaml

open DeployWatch.Number (isHexDigit readDigits isDigit)

/-! ## Blanks between words -/

/-- A run of blanks: spaces of a line, or the first line break and those after it. -/
structure Blanks where
  folded : Bool := false
  spaces : List Char := []
  first : List Char := []
  more : List Char := []

/-- What a run of blanks reads as: one line feed becomes a space, of several the first is dropped. -/
def Blanks.text (b : Blanks) : List Char :=
  if b.folded then
    if b.first = ['\n'] then (if b.more.isEmpty then [' '] else b.more) else b.first ++ b.more
  else b.spaces

/-- Reads a run of blanks; left of column `limit` no tab may stand after a line break. -/
def blanks (limit : Nat) : Nat → Blanks → Cursor → Option (Blanks × Cursor)
  | 0, b, c => some (b, c)
  | fuel + 1, b, c =>
    match c.rest with
    | [] => some (b, c)
    | ch :: _ =>
      if isSpaceOrTab ch then
        if b.folded then
          if c.column < limit ∧ ch = '\t' then none else blanks limit fuel b c.skip
        else blanks limit fuel { b with spaces := b.spaces ++ [ch] } c.skip
      else if isBreak ch then
        if b.folded then blanks limit fuel { b with more := b.more ++ c.breakText } c.skipBreak
        else blanks limit fuel { folded := true, first := c.breakText } c.skipBreak
      else some (b, c)

/-! ## Plain scalars -/

/-- Marks that end a plain scalar inside brackets. -/
def isFlowMark (c : Char) : Bool := [',', '[', ']', '\x7b', '\x7d'].contains c

/-- Reads the characters of a plain scalar up to a blank or a mark. -/
def plainWord (inFlow : Bool) : Nat → List Char → Cursor → Option (List Char × Cursor)
  | 0, acc, c => some (acc.reverse, c)
  | fuel + 1, acc, c =>
    match c.rest with
    | [] => some (acc.reverse, c)
    | ch :: next =>
      if isSpaceOrTab ch || isBreak ch then some (acc.reverse, c)
      else if inFlow && ch == ':' && next.head?.any fun n => isFlowMark n || n == '?' then none
      else if (ch == ':' && atEndOrBlank next) || (inFlow && isFlowMark ch) then some (acc.reverse, c)
      else plainWord inFlow fuel (ch :: acc) c.skip

/-- Reads a plain scalar whose continuation lines are indented by at least `limit`; also says whether
it ends after a line break. -/
def plainLines (inFlow : Bool) (limit : Nat) :
    Nat → List Char → Blanks → Cursor → Option (List Char × Bool × Cursor)
  | 0, acc, b, c => some (acc, b.folded, c)
  | fuel + 1, acc, b, c =>
    if c.atMark '-' || c.atMark '.' || c.isAt '#' then some (acc, b.folded, c)
    else do
      let (word, c') ← plainWord inFlow (c.rest.length + 1) [] c
      if word.isEmpty then some (acc, b.folded, c')
      else
        let acc := acc ++ b.text ++ word
        if !(c'.head?.any fun ch => isSpaceOrTab ch || isBreak ch) then some (acc, false, c')
        else
          let (b, c'') ← blanks limit (c'.rest.length + 1) {} c'
          if !inFlow && c''.column < limit then some (acc, b.folded, c'')
          else plainLines inFlow limit fuel acc b c''

/-- A plain scalar inside a block whose indentation is `limit - 1`. -/
def plainText (inFlow : Bool) (limit : Nat) (c : Cursor) : Option (List Char × Bool × Cursor) :=
  plainLines inFlow limit (c.rest.length + 1) [] {} c

/-! ## Quoted scalars -/

/-- The character of a one-letter escape. -/
def letterEscape : Char → Option Char
  | '0' => some '\x00'
  | 'a' => some '\x07'
  | 'b' => some '\x08'
  | 't' => some '\t'
  | '\t' => some '\t'
  | 'n' => some '\n'
  | 'v' => some '\x0b'
  | 'f' => some '\x0c'
  | 'r' => some '\r'
  | 'e' => some '\x1b'
  | ' ' => some ' '
  | '"' => some '"'
  | '/' => some '/'
  | '\\' => some '\\'
  | 'N' => some '\u0085'
  | '_' => some '\u00a0'
  | 'L' => some '\u2028'
  | 'P' => some '\u2029'
  | _ => none

/-- The number of digits of a numeric escape. -/
def escapeWidth : Char → Option Nat
  | 'x' => some 2
  | 'u' => some 4
  | 'U' => some 8
  | _ => none

/-- The character of a numeric escape with a number of digits. -/
def numericEscape (width : Nat) (cs : List Char) : Option Char :=
  let ds := cs.take width
  if ds.length = width ∧ ds.all isHexDigit then
    match readDigits 16 0 ds with
    | some n => if (0xD800 ≤ n ∧ n ≤ 0xDFFF) ∨ 0x10FFFF < n then none else some (Char.ofNat n)
    | none => none
  else none

/-- An escape after its backslash: the character and the number of characters that write it. -/
def escapeSequence : List Char → Option (Char × Nat)
  | [] => none
  | e :: next =>
    match letterEscape e with
    | some ch => some (ch, 1)
    | none =>
      match escapeWidth e with
      | some width => (numericEscape width next).map (·, width + 1)
      | none => none

/-- Reads the characters of a quoted scalar up to a blank, the closing quote or an escaped line
break; the latter is passed over and reported. -/
def quotedWord (single : Bool) : Nat → List Char → Cursor → Option (List Char × Bool × Cursor)
  | 0, acc, c => some (acc.reverse, false, c)
  | fuel + 1, acc, c =>
    match c.rest with
    | [] => some (acc.reverse, false, c)
    | ch :: next =>
      if isSpaceOrTab ch || isBreak ch then some (acc.reverse, false, c)
      else if single then
        if ch != '\x27' then quotedWord single fuel (ch :: acc) c.skip
        else if next.head? == some '\x27' then quotedWord single fuel (ch :: acc) (c.skipN 2)
        else some (acc.reverse, false, c)
      else if ch = '"' then some (acc.reverse, false, c)
      else if ch = '\\' then
        if next.head?.any isBreak then some (acc.reverse, true, c.skip.skipBreak)
        else match escapeSequence next with
          | some (e, n) => quotedWord single fuel (e :: acc) (c.skipN (n + 1))
          | none => none
      else quotedWord single fuel (ch :: acc) c.skip

/-- Reads the lines of a quoted scalar after its opening quote. -/
def quotedLines (single : Bool) : Nat → List Char → Cursor → Option (List Char × Cursor)
  | 0, _, _ => none
  | fuel + 1, acc, c =>
    if c.atMark '-' || c.atMark '.' || c.rest.isEmpty then none
    else do
      let (word, broken, c) ← quotedWord single (c.rest.length + 1) [] c
      if c.isAt (if single then '\x27' else '"') then some (acc ++ word, c.skip)
      else
        let (b, c) ← blanks 0 (c.rest.length + 1) { folded := broken } c
        quotedLines single fuel (acc ++ word ++ b.text) c

/-- A quoted scalar. -/
def quotedText (single : Bool) (c : Cursor) : Option (List Char × Cursor) :=
  quotedLines single (c.rest.length + 1) [] c.skip

/-! ## Block scalars -/

/-- What is kept of the line breaks at the end of a block scalar. -/
inductive Chomping where
  | strip
  | clip
  | keep
  deriving DecidableEq, Repr

def chompingMark (c : Cursor) : Option Chomping :=
  match c.head? with
  | some '+' => some .keep
  | some '-' => some .strip
  | _ => none

/-- An indentation mark: a digit other than zero. -/
def indentMark (c : Cursor) : Option Nat :=
  match c.head? with
  | some d => if isDigit d then some (d.toNat - 48) else none
  | none => none

/-- The marks after the indicator of a block scalar, in either order. -/
def blockHeader (c : Cursor) : Option (Chomping × Option Nat × Cursor) :=
  match chompingMark c with
  | some m =>
    let c := c.skip
    match indentMark c with
    | some 0 => none
    | some n => some (m, some n, c.skip)
    | none => some (m, none, c)
  | none =>
    match indentMark c with
    | some 0 => none
    | some n =>
      let c := c.skip
      match chompingMark c with
      | some m => some (m, some n, c.skip)
      | none => some (.clip, some n, c)
    | none => some (.clip, none, c)

/-- Empty lines and indentation before a line of content. With no indentation given it is that of the
longest line of blanks, and at least `least`. -/
def blockBreaks (least : Nat) :
    Nat → Option Nat → Nat → List Char → Cursor → Option (Nat × List Char × Cursor)
  | 0, _, _, _, _ => none
  | fuel + 1, indent, longest, breaks, c =>
    let spaces := (c.rest.takeWhile (· == ' ')).length
    let wanted := match indent with
      | none => spaces
      | some n => min spaces (n - c.column)
    let c := c.skipN wanted
    let longest := max longest c.column
    if c.isAt '\t' && (match indent with | none => true | some n => decide (c.column < n)) then none
    else if c.head?.any isBreak then
      blockBreaks least fuel indent longest (breaks ++ c.breakText) c.skipBreak
    else some (indent.getD (max longest (max least 1)), breaks, c)

/-- The lines of a block scalar. -/
def blockLines (isLiteral : Bool) (indent : Nat) :
    Nat → List Char → Bool → List Char → List Char → Cursor →
      Option (List Char × List Char × List Char × Cursor)
  | 0, acc, _, lead, trail, c => some (acc, lead, trail, c)
  | fuel + 1, acc, afterBlank, lead, trail, c =>
    if c.column != indent || c.rest.isEmpty then some (acc, lead, trail, c)
    else do
      let blank := c.head?.any isSpaceOrTab
      let joint :=
        if !isLiteral && lead == ['\n'] && !afterBlank && !blank then
          (if trail.isEmpty then [' '] else trail)
        else lead ++ trail
      let line := c.rest.takeWhile fun ch => !isBreak ch
      let c := c.skipN line.length
      let lead := c.breakText
      let (_, trail, c) ← blockBreaks 0 (c.rest.length + 2) (some indent) 0 [] c.skipBreak
      blockLines isLiteral indent fuel (acc ++ joint ++ line) blank lead trail c

/-- A block scalar inside a block of the given indentation, which is -1 at the top. -/
def blockText (isLiteral : Bool) (outer : Int) (c : Cursor) : Option (List Char × Cursor) := do
  let (chomping, increment, c) ← blockHeader c.skip
  let c := c.skipWhile isSpaceOrTab
  let c := if c.isAt '#' then c.skipLine else c
  if !(c.rest.isEmpty || c.head?.any isBreak) then none else
  let indent := increment.map fun n => n + outer.toNat
  let (indent, trail, c) ← blockBreaks (outer + 1).toNat (c.rest.length + 2) indent 0 [] c.skipBreak
  let (text, lead, trail, c) ← blockLines isLiteral indent (c.rest.length + 1) [] false [] trail c
  let text := match chomping with
    | .strip => text
    | .clip => text ++ lead
    | .keep => text ++ lead ++ trail
  return (text, c)

end DeployWatch.Yaml
