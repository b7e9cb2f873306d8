import DeployWatch.Yaml.ScalarText

/-!
# From text to tokens

Indentation opens and closes blocks. A place where a key may have begun is remembered until a colon
shows that it has, until the line ends, or for 1024 bytes.

* `Layout`: what is remembered between tokens;
* `tokens?`: the tokens of a text, unless it is malformed.
-/

namespace DeployWatch.Yaml

/-- A place where a simple key may have begun. -/
structure KeyPlace where
  /-- Whether only a key can stand here. -/
  required : Bool
  /-- The number of tokens before it. -/
  number : Nat
  cursor : Cursor
  deriving Inhabited

/-- The tokens so far and what is open. -/
structure Layout where
  cursor : Cursor
  tokens : Array Token := #[]
  /-- The column of the innermost block, -1 at the top. -/
  indent : Int := -1
  outer : List Int := []
  keyAllowed : Bool := true
  /-- Places of keys, one for each open bracket and one for the block, innermost first. -/
  keys : List (Option KeyPlace) := [none]
  done : Bool := false
  deriving Inhabited

namespace Layout

/-- Whether the cursor stands inside brackets. -/
def inFlow (s : Layout) : Bool := 1 < s.keys.length

def push (s : Layout) (t : Token) : Layout := { s with tokens := s.tokens.push t }

/-- Opens a block at a column unless it is open already, before token `number` or at the end. -/
def openBlock (s : Layout) (column : Nat) (number : Option Nat) (t : Token) : Layout :=
  if s.inFlow ∨ (column : Int) ≤ s.indent then s
  else
    let tokens := match number with
      | some n => s.tokens.insertIdxIfInBounds n t
      | none => s.tokens.push t
    { s with outer := s.indent :: s.outer, indent := column, tokens := tokens }

/-- Closes the blocks that are indented further than a column. -/
def closeBlocks (s : Layout) (column : Int) : Layout :=
  if s.inFlow then s else go s.outer s.indent s.tokens
where
  /-- Closes blocks while the innermost is indented further. -/
  go : List Int → Int → Array Token → Layout
    | [], indent, tokens => { s with outer := [], indent := indent, tokens := tokens }
    | o :: rest, indent, tokens =>
      if column < indent then go rest o (tokens.push .blockEnd)
      else { s with outer := o :: rest, indent := indent, tokens := tokens }

/-- Forgets the innermost place of a key, which must not be one where a key is required. -/
def dropKey (s : Layout) : Option Layout :=
  match s.keys with
  | some k :: rest => if k.required then none else some { s with keys := none :: rest }
  | _ => some s

/-- Remembers the cursor as a place of a key if one may begin here. -/
def saveKey (s : Layout) : Option Layout :=
  if !s.keyAllowed then some s else do
    let required := !s.inFlow && s.indent == (s.cursor.column : Int)
    let s ← s.dropKey
    return { s with keys := some ⟨required, s.tokens.size, s.cursor⟩ :: s.keys.drop 1 }

/-- Forgets the places of keys on earlier lines or more than 1024 bytes back. -/
def dropStale (s : Layout) : Option Layout := do
  let keys ← s.keys.mapM fun k =>
    match k with
    | none => some none
    | some k =>
      if k.cursor.line < s.cursor.line ∨ k.cursor.index + 1024 < s.cursor.index then
        (if k.required then none else some none)
      else some (some k)
  return { s with keys := keys }

/-- Passes over blanks, comments and line breaks, and over a byte order mark at the start of a line. -/
def skipBlanks : Nat → Layout → Layout
  | 0, s => s
  | fuel + 1, s =>
    let c := s.cursor
    let c := if c.column == 0 && c.isAt '\uFEFF' then c.skip else c
    let tabs := s.inFlow || !s.keyAllowed
    let c := c.skipWhile fun ch => ch == ' ' || (tabs && ch == '\t')
    let c := if c.isAt '#' then c.skipLine else c
    if c.head?.any isBreak then
      skipBlanks fuel { s with cursor := c.skipBreak, keyAllowed := s.keyAllowed || !s.inFlow }
    else { s with cursor := c }

/-- Adds a token of some characters before which the innermost key place is forgotten. -/
def mark (s : Layout) (t : Token) (width : Nat) (keyAllowed : Bool) : Option Layout := do
  let s ← s.dropKey
  return { s with tokens := s.tokens.push t, cursor := s.cursor.skipN width, keyAllowed := keyAllowed }

def openFlow (s : Layout) (t : Token) : Option Layout := do
  let s ← s.saveKey
  return { s with tokens := s.tokens.push t, cursor := s.cursor.skip, keyAllowed := true,
                  keys := none :: s.keys }

def closeFlow (s : Layout) (t : Token) : Option Layout := do
  let s ← s.dropKey
  let keys := if s.inFlow then s.keys.drop 1 else s.keys
  return { s with tokens := s.tokens.push t, cursor := s.cursor.skip, keyAllowed := false, keys := keys }

/-- The mark of a sequence entry or a key in a block, which may open it. -/
def blockMark (s : Layout) (start t : Token) (keyAllowed : Bool) : Option Layout :=
  if s.inFlow then s.mark t 1 keyAllowed
  else if !s.keyAllowed then none
  else (s.openBlock s.cursor.column none start).mark t 1 keyAllowed

/-- A colon: the value of a remembered key, or of a key without text. -/
def valueMark (s : Layout) : Option Layout :=
  match s.keys with
  | some k :: rest =>
    let s := { s with keys := none :: rest, tokens := s.tokens.insertIdxIfInBounds k.number .key }
    let s := s.openBlock k.cursor.column (some k.number) .blockMappingStart
    some { s with tokens := s.tokens.push .value, cursor := s.cursor.skip, keyAllowed := false }
  | _ =>
    if s.inFlow then
      some { s with tokens := s.tokens.push .value, cursor := s.cursor.skip, keyAllowed := false }
    else if !s.keyAllowed then none
    else
      let s := s.openBlock s.cursor.column none .blockMappingStart
      some { s with tokens := s.tokens.push .value, cursor := s.cursor.skip, keyAllowed := true }

/-- A token that may begin a key, given what is read of it. -/
def content (s : Layout) (read : Cursor → Option (Token × Cursor)) : Option Layout := do
  let s ← s.saveKey
  let (t, c) ← read s.cursor
  return { s with tokens := s.tokens.push t, cursor := c, keyAllowed := false }

def plain (s : Layout) : Option Layout := do
  let s ← s.saveKey
  let (text, newLine, c) ← plainText s.inFlow (s.indent + 1).toNat s.cursor
  return { s with tokens := s.tokens.push (.scalar .plain (String.ofList text)), cursor := c,
                  keyAllowed := newLine }

def block (s : Layout) (isLiteral : Bool) : Option Layout := do
  let s ← s.dropKey
  let (text, c) ← blockText isLiteral s.indent s.cursor
  let style := if isLiteral then ScalarStyle.literal else .folded
  return { s with tokens := s.tokens.push (.scalar style (String.ofList text)), cursor := c,
                  keyAllowed := true }

/-- A directive, or a mark between documents. -/
def topLevel (s : Layout) (read : Cursor → Option (Token × Cursor)) : Option Layout := do
  let s ← (s.closeBlocks (-1)).dropKey
  let (t, c) ← read s.cursor
  return { s with tokens := s.tokens.push t, cursor := c, keyAllowed := false }

def finish (s : Layout) : Option Layout := do
  let s ← (s.closeBlocks (-1)).dropKey
  return { s with tokens := s.tokens.push .streamEnd, done := true }

/-- Characters that cannot begin a plain scalar. -/
def isIndicator (c : Char) : Bool := "-?:,[]\x7b\x7d#&*!|>'\"%@\x60".toList.contains c

/-- Whether a plain scalar begins with a character and the text after it. -/
def beginsPlain (inFlow : Bool) (ch : Char) (next : List Char) : Bool :=
  (!(isSpaceOrTab ch || isBreak ch) && !isIndicator ch) ||
    (ch == '-' && !(next.head?.any isSpaceOrTab)) ||
    (!inFlow && (ch == '?' || ch == ':') && !atEndOrBlank next)

/-- A quoted scalar token. -/
def quotedToken (single : Bool) (c : Cursor) : Option (Token × Cursor) := do
  let (text, c) ← quotedText single c
  return (.scalar (if single then .singleQuoted else .doubleQuoted) (String.ofList text), c)

/-- Reads the next token. -/
def step (s : Layout) : Option Layout := do
  let s ← (skipBlanks (s.cursor.rest.length + 1) s).dropStale
  let s := s.closeBlocks s.cursor.column
  let c := s.cursor
  let flow := s.inFlow
  match c.rest with
  | [] => s.finish
  | ch :: next =>
    let standsAlone := flow || atEndOrBlank next
    if ch == '%' && c.column == 0 then s.topLevel directiveToken
    else if c.atMark '-' then s.topLevel fun c => some (.documentStart, c.skipN 3)
    else if c.atMark '.' then s.topLevel fun c => some (.documentEnd, c.skipN 3)
    else if ch == '[' then s.openFlow .flowSequenceStart
    else if ch == '\x7b' then s.openFlow .flowMappingStart
    else if ch == ']' then s.closeFlow .flowSequenceEnd
    else if ch == '\x7d' then s.closeFlow .flowMappingEnd
    else if ch == ',' then s.mark .flowEntry 1 true
    else if ch == '-' && atEndOrBlank next then s.blockMark .blockSequenceStart .blockEntry true
    else if ch == '?' && standsAlone then s.blockMark .blockMappingStart .key (!flow)
    else if ch == ':' && standsAlone then s.valueMark
    else if ch == '*' then s.content fun c => (anchorName c).map fun (n, c) => (.alias n, c)
    else if ch == '&' then s.content fun c => (anchorName c).map fun (n, c) => (.anchor n, c)
    else if ch == '!' then s.content (tagToken flow)
    else if ch == '|' && !flow then s.block true
    else if ch == '>' && !flow then s.block false
    else if ch == '\x27' then s.content (quotedToken true)
    else if ch == '"' then s.content (quotedToken false)
    else if beginsPlain flow ch next then s.plain
    else none

/-- Reads tokens to the end of the text. -/
def run : Nat → Layout → Option (Array Token)
  | 0, _ => none
  | fuel + 1, s => do
    let s ← s.step
    if s.done then return s.tokens else run fuel s

end Layout

/-- The tokens of a text. -/
def tokens? (text : List Char) : Option (Array Token) :=
  if !text.all isReadable then none
  else Layout.run (text.length + 2) { cursor := { rest := text } }

end DeployWatch.Yaml
