import DeployWatch.Yaml.Scan

/-!
# The document of a YAML text

* `Node`: scalars, sequences, mappings and aliases as written;
* `Document`: the root with the nodes that have anchors;
* `Document.read?`: the only document of a text.

An alias refers to its anchor by number. A name that is anchored again takes the number of names
known by then, so that two anchors can come to share a number; the later one in the text then stands
for both.
-/

namespace DeployWatch.Yaml

/-- A node as written; a missing node is an empty plain scalar. -/
inductive Node where
  | scalar (tag : Option Tag) (style : ScalarStyle) (text : String)
  | sequence (tag : Option Tag) (items : List Node)
  | mapping (tag : Option Tag) (entries : List (Node × Node))
  | alias (number : Nat)
  deriving Inhabited

structure Document where
  root : Node
  /-- The nodes with anchors by number. -/
  anchored : List (Nat × Node) := []
  /-- The number of scalars, aliases, and starts and ends of collections. -/
  size : Nat := 0
  deriving Inhabited

def Node.missing : Node := .scalar none .plain ""

namespace Document

/-- What is known while a document is read. -/
structure Builder where
  tokens : List Token
  handles : List (String × Tag) := []
  /-- The numbers of the names known so far. -/
  names : List (String × Nat) := []
  /-- Nodes with anchors: number, place in the document, node. -/
  anchored : List (Nat × Nat × Node) := []
  size : Nat := 0

/-- Reads with a builder, or fails. -/
abbrev Reader := StateT Builder Option

/-- The next token, which stays. -/
def peek : Reader Token := do
  match (← get).tokens with
  | t :: _ => return t
  | [] => return .streamEnd

def advance : Reader Unit := modify fun b => { b with tokens := b.tokens.drop 1 }

/-- Counts one more part of the document and gives its place. -/
def count : Reader Nat := do
  let b ← get
  set { b with size := b.size + 1 }
  return b.size

/-- Gives a number to a name. -/
def nameAnchor : Option String → Reader (Option Nat)
  | none => return none
  | some name => do
    let b ← get
    let number := b.names.length
    set { b with names := (name, number) :: b.names.filter fun e => e.1 != name }
    return some number

/-- Keeps a node that has an anchor. -/
def keep (number : Option Nat) (place : Nat) (n : Node) : Reader Node := do
  match number with
  | some k => modify fun b => { b with anchored := (k, place, n) :: b.anchored }
  | none => pure ()
  return n

/-- A scalar in place. -/
def emptyScalar : Reader Node := do
  let _ ← count
  return .missing

/-- The tag that a handle and a suffix stand for. -/
def resolveTag (handle : String) (suffix : Tag) : Reader Tag := do
  if handle.isEmpty then return suffix
  match (← get).handles.find? fun h => h.1 == handle with
  | some (_, lead) => return lead ++ suffix
  | none => failure

/-- Anchor and tag of a node, in either order. -/
def properties : Reader (Option String × Option Tag) := do
  match ← peek with
  | .anchor a =>
    advance
    match ← peek with
    | .tag h s => advance; return (some a, some (← resolveTag h s))
    | _ => return (some a, none)
  | .tag h s =>
    advance
    match ← peek with
    | .anchor a => advance; return (some a, some (← resolveTag h s))
    | _ => return (none, some (← resolveTag h s))
  | _ => return (none, none)

mutual

/-- Reads a node; `block` allows block collections, `indentless` a sequence at the column of its
mapping. -/
def node : Nat → Bool → Bool → Reader Node
  | 0, _, _ => failure
  | fuel + 1, block, indentless => do
    match ← peek with
    | .alias name =>
      advance
      match (← get).names.find? fun e => e.1 == name with
      | some (_, number) => let _ ← count; return .alias number
      | none => failure
    | _ =>
      let (anchor, tag) ← properties
      let t ← peek
      let content := match t with
        | .blockEntry => indentless
        | .scalar .. => true
        | .flowSequenceStart => true
        | .flowMappingStart => true
        | .blockSequenceStart => block
        | .blockMappingStart => block
        | _ => false
      if !content && anchor.isNone && tag.isNone then failure
      let number ← nameAnchor anchor
      let place ← count
      match t with
      | .scalar style text => advance; keep number place (.scalar tag style text)
      | .blockEntry =>
        if indentless then
          let items ← entries fuel false
          let _ ← count
          keep number place (.sequence tag items)
        else keep number place (.scalar tag .plain "")
      | .flowSequenceStart =>
        advance
        let items ← flowItems fuel true
        let _ ← count
        keep number place (.sequence tag items)
      | .flowMappingStart =>
        advance
        let pairs ← flowPairs fuel true
        let _ ← count
        keep number place (.mapping tag pairs)
      | .blockSequenceStart =>
        if block then
          advance
          let items ← entries fuel true
          let _ ← count
          keep number place (.sequence tag items)
        else keep number place (.scalar tag .plain "")
      | .blockMappingStart =>
        if block then
          advance
          let pairs ← pairs fuel
          let _ ← count
          keep number place (.mapping tag pairs)
        else keep number place (.scalar tag .plain "")
      | _ => keep number place (.scalar tag .plain "")

/-- Reads the entries of a block sequence; `closed` says whether a block end follows them. -/
def entries : Nat → Bool → Reader (List Node)
  | 0, _ => failure
  | fuel + 1, closed => do
    match ← peek with
    | .blockEntry =>
      advance
      let empty := match ← peek with
        | .blockEntry => true
        | .blockEnd => true
        | .key => !closed
        | .value => !closed
        | _ => false
      let item ← if empty then emptyScalar else node fuel true false
      return item :: (← entries fuel closed)
    | .blockEnd => if closed then advance
                   return []
    | _ => if closed then failure else return []

/-- Reads a key or a value of a block mapping after its mark. -/
def part : Nat → Reader Node
  | 0 => failure
  | fuel + 1 => do
    match ← peek with
    | .key => emptyScalar
    | .value => emptyScalar
    | .blockEnd => emptyScalar
    | _ => node fuel true true

/-- Reads the entries of a block mapping. -/
def pairs : Nat → Reader (List (Node × Node))
  | 0 => failure
  | fuel + 1 => do
    match ← peek with
    | .key =>
      advance
      let k ← part fuel
      let v ← match ← peek with
        | .value => do advance; part fuel
        | _ => emptyScalar
      return (k, v) :: (← pairs fuel)
    | .blockEnd => advance; return []
    | _ => failure

/-- Reads the items of a sequence in brackets. -/
def flowItems : Nat → Bool → Reader (List Node)
  | 0, _ => failure
  | fuel + 1, first => do
    match ← peek with
    | .flowSequenceEnd => advance; return []
    | t =>
      if !first then
        if t = .flowEntry then advance else failure
      match ← peek with
      | .key =>
        advance
        let _ ← count
        let item ← flowPair fuel
        let _ ← count
        return item :: (← flowItems fuel false)
      | .flowSequenceEnd => advance; return []
      | _ =>
        let item ← node fuel false false
        return item :: (← flowItems fuel false)

/-- Reads the only entry of a mapping written inside a sequence in brackets. -/
def flowPair : Nat → Reader Node
  | 0 => failure
  | fuel + 1 => do
    let k ← match ← peek with
      | .value => do advance; emptyScalar
      | .flowEntry => do advance; emptyScalar
      | .flowSequenceEnd => do advance; emptyScalar
      | _ => node fuel false false
    let v ← match ← peek with
      | .value => do
        advance
        match ← peek with
        | .flowEntry => emptyScalar
        | .flowSequenceEnd => emptyScalar
        | _ => node fuel false false
      | _ => emptyScalar
    return .mapping none [(k, v)]

/-- Reads the entries of a mapping in brackets. -/
def flowPairs : Nat → Bool → Reader (List (Node × Node))
  | 0, _ => failure
  | fuel + 1, first => do
    match ← peek with
    | .flowMappingEnd => advance; return []
    | t =>
      if !first then
        if t = .flowEntry then advance else failure
      match ← peek with
      | .key =>
        advance
        let k ← flowPart fuel true
        let v ← match ← peek with
          | .value => do advance; flowPart fuel false
          | _ => emptyScalar
        return (k, v) :: (← flowPairs fuel false)
      | .flowMappingEnd => advance; return []
      | _ =>
        let k ← node fuel false false
        let v ← emptyScalar
        return (k, v) :: (← flowPairs fuel false)

/-- Reads a key or a value in brackets after its mark. -/
def flowPart : Nat → Bool → Reader Node
  | 0, _ => failure
  | fuel + 1, isKey => do
    match ← peek with
    | .flowEntry => emptyScalar
    | .flowMappingEnd => emptyScalar
    | .value => if isKey then emptyScalar else node fuel false false
    | _ => node fuel false false

end

/-- Reads the directives before a document: one version at most, which must be 1.1 or 1.2, and one
meaning for each tag handle. -/
def directives : List Token → Bool → List (String × Tag) → Option (List (String × Tag) × List Token)
  | .versionDirective major minor :: rest, false, handles =>
    if major = 1 ∧ (minor = 1 ∨ minor = 2) then directives rest true handles else none
  | .versionDirective .. :: _, true, _ => none
  | .tagDirective h p :: rest, version, handles =>
    if handles.any fun e => e.1 == h then none else directives rest version (handles ++ [(h, p)])
  | rest, _, handles => some (handles, rest)

/-- The meanings of the two standard tag handles, unless directives give others. -/
def standardHandles : List (String × Tag) :=
  [("!", .ofString "!"), ("!!", .ofString "tag:yaml.org,2002:")]

/-- Whether nothing but marks of a document's end is left. -/
def onlyEnds : List Token → Bool
  | .documentEnd :: rest => onlyEnds rest
  | .streamEnd :: _ => true
  | [] => true
  | _ => false

/-- Reads the root of a document that starts with a mark. -/
def explicitRoot (fuel : Nat) : Reader Node := do
  match ← peek with
  | .versionDirective .. => emptyScalar
  | .tagDirective .. => emptyScalar
  | .documentStart => emptyScalar
  | .documentEnd => emptyScalar
  | .streamEnd => emptyScalar
  | _ => node fuel true false

/-- The anchored nodes, of several with one number the last in the document. -/
def latest (anchored : List (Nat × Nat × Node)) : List (Nat × Node) :=
  anchored.filterMap fun (k, place, n) =>
    if anchored.any fun (k', place', _) => k' = k ∧ place < place' then none else some (k, n)

/-- Runs a reader on the tokens of a document and makes sure that no other document follows. -/
def finish (reader : Reader Node) (tokens : List Token) (handles : List (String × Tag)) :
    Option Document := do
  let (root, b) ← reader.run { tokens := tokens, handles := handles ++ standardHandles }
  if onlyEnds b.tokens then
    return { root := root, anchored := latest b.anchored, size := b.size }
  else none

/-- The only document of a text; a text of comments alone is a missing node. -/
def read? (text : List Char) : Option Document := do
  let tokens := (← tokens? text).toList
  let fuel := 4 * tokens.length + 8
  match tokens with
  | [.streamEnd] => return { root := .missing, size := 1 }
  | .documentStart :: _ | .versionDirective .. :: _ | .tagDirective .. :: _ =>
    let (handles, rest) ← directives tokens false []
    match rest with
    | .documentStart :: rest => finish (explicitRoot fuel) rest handles
    | _ => none
  | _ => finish (node fuel true false) tokens []

end Document

end DeployWatch.Yaml
