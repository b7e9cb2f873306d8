import DeployWatch.Number.Digits
import DeployWatch.Text.Utf8
import DeployWatch.Yaml.Cursor

/-!
# Tokens of YAML

* `Tag`: the bytes of a tag, which escapes can make ill-formed UTF-8;
* `Token`: the words and marks of a YAML text, block structure included;
* `anchorName`, `tagToken`, `directiveToken`: the tokens with a grammar of their own.
-/

namespace DeployWatch.Yaml

open DeployWatch.Number (isDigit isHexDigit readDigits)
open DeployWatch.Text (decodeUtf8 encodeUtf8)

/-- How a scalar is written. -/
inductive ScalarStyle where
  | plain
  | singleQuoted
  | doubleQuoted
  | literal
  | folded
  deriving DecidableEq, Repr, Inhabited

/-- The bytes of a tag or of a part of one. -/
abbrev Tag := List UInt8

/-- The tag of a text. -/
def Tag.ofString (s : String) : Tag := encodeUtf8 s

/-- Whether a tag starts with an exclamation mark. -/
def Tag.startsLocal (t : Tag) : Bool := t.head? == some 0x21

/-- Whether a tag names a type of the document's own: an exclamation mark with a text after it. -/
def Tag.isLocal (t : Tag) : Bool := t.startsLocal && (decodeUtf8 (t.drop 1)).isSome

inductive Token where
  | versionDirective (major minor : Nat)
  | tagDirective (handle : String) (lead : Tag)
  | documentStart
  | documentEnd
  | blockSequenceStart
  | blockMappingStart
  | blockEnd
  | flowSequenceStart
  | flowSequenceEnd
  | flowMappingStart
  | flowMappingEnd
  | blockEntry
  | flowEntry
  | key
  | value
  | alias (name : String)
  | anchor (name : String)
  | tag (handle : String) (suffix : Tag)
  | scalar (style : ScalarStyle) (text : String)
  | streamEnd
  deriving DecidableEq, Repr, Inhabited

/-! ## Anchors and tags -/

/-- Whether a character may follow the name of an anchor or an alias. -/
def mayFollowName : List Char → Bool
  | [] => true
  | c :: _ => isSpaceOrTab c || isBreak c || [ '?', ':', ',', ']', '\x7d', '%', '@', '\x60'].contains c

/-- The name after the mark of an anchor or an alias. -/
def anchorName (c : Cursor) : Option (String × Cursor) :=
  let c := c.skip
  let name := c.rest.takeWhile isNameChar
  let c := c.skipN name.length
  if name.isEmpty || !mayFollowName c.rest then none else some (String.ofList name, c)

/-- The length of a character by its first byte. -/
def escapedLength (b : Nat) : Option Nat :=
  if b < 0x80 then some 1
  else if 0xC0 ≤ b ∧ b < 0xE0 then some 2
  else if 0xE0 ≤ b ∧ b < 0xF0 then some 3
  else if 0xF0 ≤ b ∧ b < 0xF8 then some 4
  else none

/-- A byte written as a percent sign and two hexadecimal digits. -/
def escapedByte : List Char → Option (Nat × List Char)
  | '%' :: a :: b :: r => if isHexDigit a && isHexDigit b then (readDigits 16 0 [a, b]).map (·, r) else none
  | _ => none

/-- Further bytes of an escaped character. -/
def escapedTail : Nat → List Char → Option (Tag × List Char)
  | 0, cs => some ([], cs)
  | n + 1, cs => do
    let (b, r) ← escapedByte cs
    if b < 0x80 ∨ 0xC0 ≤ b then none else
    let (tail, r) ← escapedTail n r
    return (b.toUInt8 :: tail, r)

/-- A character of a tag written by its bytes. The first byte gives their number, and the others need
not fit it in any other way. -/
def escapedChar (c : Cursor) : Option (Tag × Cursor) := do
  let (b, r) ← escapedByte c.rest
  let len ← escapedLength b
  let (tail, r) ← escapedTail (len - 1) r
  return (b.toUInt8 :: tail, c.skipN (c.rest.length - r.length))

/-- Characters of tags; `wide` says whether commas and brackets are among them. -/
def isTagChar (wide : Bool) (c : Char) : Bool :=
  isNameChar c || ";/?:@&=+$.%!~*'()".toList.contains c || (wide && [',', '[', ']'].contains c)

/-- The characters of a tag from the cursor on. -/
def tagChars (wide : Bool) : Nat → Tag → Cursor → Option (Tag × Cursor)
  | 0, acc, c => some (acc, c)
  | fuel + 1, acc, c =>
    match c.rest with
    | ch :: _ =>
      if !isTagChar wide ch then some (acc, c)
      else if ch = '%' then
        match escapedChar c with
        | some (e, c) => tagChars wide fuel (acc ++ e) c
        | none => none
      else tagChars wide fuel (acc ++ [ch.toNat.toUInt8]) c.skip
    | [] => some (acc, c)

/-- The rest of a tag that goes on from `head`, whose first byte is left out; a tag without head has at
least one character. It ends before its first zero byte. -/
def tagRest (wide : Bool) (head : Tag) (c : Cursor) : Option (Tag × Cursor) := do
  let (cs, c') ← tagChars wide (c.rest.length + 1) [] c
  if head.isEmpty && cs.isEmpty then none else some ((head.drop 1 ++ cs).takeWhile (· != 0), c')

/-- A tag handle: exclamation marks around a name, or one before it. In a directive only the mark
alone may lack the closing one. -/
def tagHandle (directive : Bool) (c : Cursor) : Option (String × Cursor) :=
  if !c.isAt '!' then none else
  let c := c.skip
  let name := c.rest.takeWhile isNameChar
  let c := c.skipN name.length
  if c.isAt '!' then some (String.ofList ('!' :: name ++ ['!']), c.skip)
  else if directive && !name.isEmpty then none
  else some (String.ofList ('!' :: name), c)

def tagToken (inFlow : Bool) (c : Cursor) : Option (Token × Cursor) := do
  let (handle, suffix, c) ←
    if c.rest.take 2 = ['!', '<'] then do
      let (suffix, c) ← tagRest true [] (c.skipN 2)
      if c.isAt '>' then some ("", suffix, c.skip) else none
    else do
      let (handle, c) ← tagHandle false c
      if 2 ≤ handle.length ∧ handle.toList.getLast? = some '!' then
        let (suffix, c) ← tagRest false [] c
        some (handle, suffix, c)
      else
        let (suffix, c) ← tagRest false (.ofString handle) c
        some (if suffix.isEmpty then ("", .ofString "!", c) else ("!", suffix, c))
  if (inFlow && c.isAt ',') || c.blankAfter 0 then some (.tag handle suffix, c) else none

/-! ## Directives -/

/-- A version number of at most nine digits. -/
def versionNumber (c : Cursor) : Option (Nat × Cursor) :=
  let ds := c.rest.takeWhile isDigit
  if ds.isEmpty ∨ 9 < ds.length then none
  else (readDigits 10 0 ds).map (·, c.skipN ds.length)

/-- The two numbers of a version directive. -/
def versionValue (c : Cursor) : Option (Token × Cursor) := do
  let (major, c) ← versionNumber (c.skipWhile isSpaceOrTab)
  if !c.isAt '.' then none else
  let (minor, c) ← versionNumber c.skip
  return (.versionDirective major minor, c)

/-- Handle and lead of a tag directive. -/
def tagDirectiveValue (c : Cursor) : Option (Token × Cursor) := do
  let (handle, c) ← tagHandle true (c.skipWhile isSpaceOrTab)
  if !(c.head?.any isSpaceOrTab) then none else
  let (lead, c) ← tagRest true [] (c.skipWhile isSpaceOrTab)
  if c.blankAfter 0 then some (.tagDirective handle lead, c) else none

/-- A directive up to the end of its line. -/
def directiveToken (c : Cursor) : Option (Token × Cursor) := do
  let c := c.skip
  let name := c.rest.takeWhile isNameChar
  let c := c.skipN name.length
  if name.isEmpty || !c.blankAfter 0 then none else
  let (t, c) ←
    if name = "YAML".toList then versionValue c
    else if name = "TAG".toList then tagDirectiveValue c
    else none
  let c := c.skipWhile isSpaceOrTab
  let c := if c.isAt '#' then c.skipLine else c
  match c.rest with
  | [] => some (t, c)
  | b :: _ => if isBreak b then some (t, c.skipBreak) else none

end DeployWatch.Yaml
