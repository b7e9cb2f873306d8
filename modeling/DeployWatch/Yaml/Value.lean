import DeployWatch.Yaml.Document
import DeployWatch.Yaml.Scalar

/-!
# Values of YAML documents

* `Value`: null, truth values, numbers, texts, sequences and mappings;
* `Walk`, `follow`: going through a document along its aliases, whose number is bounded;
* `Value.read`: the value of a node, of bounded depth and without local tags or repeated keys;
* `Value.toNode`: the node that a value is written as.
-/

namespace DeployWatch.Yaml

open DeployWatch.Number (Binary64 decimalInt)

inductive Value where
  | null
  | bool (b : Bool)
  | int (n : Int)
  | float (f : Binary64)
  | text (s : String)
  | sequence (items : List Value)
  | mapping (entries : List (Value × Value))
  deriving Inhabited, Repr

namespace Value

mutual

/-- Whether two values are the same; the order of a mapping's entries does not matter. -/
def same : Value → Value → Bool
  | null, null => true
  | bool a, bool b => a == b
  | int a, int b => a == b
  | float a, float b => a.sameValue b
  | text a, text b => a == b
  | sequence a, sequence b => sameItems a b
  | mapping a, mapping b => a.length == b.length && sameEntries a b
  | _, _ => false

/-- Whether two lists hold the same values in order. -/
def sameItems : List Value → List Value → Bool
  | [], [] => true
  | a :: as, b :: bs => same a b && sameItems as bs
  | _, _ => false

/-- Whether every entry of the first list is in the second. -/
def sameEntries : List (Value × Value) → List (Value × Value) → Bool
  | [], _ => true
  | (k, v) :: rest, bs => (bs.any fun b => same k b.1 && same v b.2) && sameEntries rest bs

end

/-- Whether no two keys are the same. -/
def distinctKeys : List (Value × Value) → Bool
  | [] => true
  | (k, _) :: rest => !(rest.any fun e => same k e.1) && distinctKeys rest

/-- The value of a scalar; whole numbers have 64 bits. -/
def ofScalar? : Scalar → Option Value
  | .null => some null
  | .bool b => some (bool b)
  | .int n => if -9223372036854775808 ≤ n ∧ n < 18446744073709551616 then some (int n) else none
  | .float f => some (float f)
  | .text s => some (text s)

end Value

/-! ## Reading -/

/-- Goes through a document while counting the aliases followed. -/
abbrev Walk := ReaderT Document (StateT Nat Option)

/-- The node itself or the one an alias stands for. Aliases are followed at most a hundred times as
often as the document has parts. -/
def follow (n : Node) : Walk Node := do
  match n with
  | .alias number =>
    let doc ← read
    let jumps ← get
    set (jumps + 1)
    if doc.size * 100 < jumps + 1 then failure
    match doc.anchored.find? fun e => e.1 == number with
    | some (_, .alias _) => failure
    | some (_, target) => return target
    | none => failure
  | n => return n

namespace Value

/-- Reads a node whose parts, if any are allowed, are read by `part`. -/
def readWith (part : Option (Node → Walk Value)) (n : Node) : Walk Value := do
  match ← follow n with
  | .scalar tag style s =>
    match (Scalar.ofTagged? tag style s).bind ofScalar? with
    | some v => return v
    | none => failure
  | .sequence tag items =>
    match part with
    | some part => if tag.any (·.isLocal) then failure else return sequence (← items.mapM part)
    | none => failure
  | .mapping tag entries =>
    match part with
    | some part =>
      if tag.any (·.isLocal) then failure
      let es ← entries.mapM fun (k, v) => do return (← part k, ← part v)
      if distinctKeys es then return mapping es else failure
    | none => failure
  | .alias _ => failure

/-- Reads a node with at most `depth` collections inside one another. -/
def read : Nat → Node → Walk Value
  | 0 => readWith none
  | depth + 1 => readWith (some (read depth))

end Value

/-- The text of a scalar, whatever it would stand for. -/
def readText (n : Node) : Walk String := do
  match ← follow n with
  | .scalar _ _ s => return s
  | _ => failure

/-- A truth value written plainly, or as a literal with the tag of truth values. -/
def readFlag (n : Node) : Walk Bool := do
  match ← follow n with
  | .scalar tag style s =>
    if style = .plain ∨ (style = .literal ∧ tag = some (Scalar.standardTag "bool")) then
      match Scalar.boolOfText s with
      | some b => return b
      | none => failure
    else failure
  | _ => failure

/-! ## Writing -/

namespace Value

/-- The text of a floating-point number. -/
def floatText : Binary64 → String
  | .nan => ".nan"
  | .infinite neg => if neg then "-.inf" else ".inf"
  | .finite neg m e => Binary64.compact neg m e

/-- The style asked for when a text is written. -/
def textStyle (s : String) : ScalarStyle :=
  if s.toList.contains '\n' then .literal else if Scalar.needsQuotes s then .singleQuoted else .plain

mutual

/-- The node of a value; plain style is asked for where the text allows it. -/
def toNode : Value → Node
  | null => .scalar none .plain "null"
  | bool b => .scalar none .plain (if b then "true" else "false")
  | int n => .scalar none .plain (String.ofList (decimalInt n))
  | float f => .scalar none .plain (floatText f)
  | text s => .scalar none (textStyle s) s
  | sequence items => .sequence none (itemNodes items)
  | mapping entries => .mapping none (entryNodes entries)

def itemNodes : List Value → List Node
  | [] => []
  | v :: rest => toNode v :: itemNodes rest

def entryNodes : List (Value × Value) → List (Node × Node)
  | [] => []
  | (k, v) :: rest => (toNode k, toNode v) :: entryNodes rest

end

/-- Whether a mapping has exactly one entry. -/
def isSingle : Value → Bool
  | mapping [_] => true
  | _ => false

mutual

/-- Whether a value can be written: no mapping of one entry is the key of another. -/
def writable : Value → Bool
  | sequence items => writableItems items
  | mapping [(k, v)] => !isSingle k && writable k && writable v
  | mapping entries => writableEntries entries
  | _ => true

def writableItems : List Value → Bool
  | [] => true
  | v :: rest => writable v && writableItems rest

def writableEntries : List (Value × Value) → Bool
  | [] => true
  | (k, v) :: rest => writable k && writable v && writableEntries rest

end

end Value

end DeployWatch.Yaml
