import DeployWatch.Json.Basic
import DeployWatch.Json.Doc
import DeployWatch.SortedMap

/-!
# Decoding JSON

A decoder goes through a tree in the order of the text and stops at the first fault of the text or of
the data.

* `DecodeError`, `Decoder`;
* `decodeText`: decodes a whole text;
* `Record`: records, written as objects or as arrays of their fields in order; unknown members are
  passed over, a repeated field and a missing required field are faults of the data.
-/

namespace DeployWatch.Json

/-- Why a text does not decode. -/
inductive DecodeError where
  /-- The text is no JSON. -/
  | malformed
  /-- The text ends early. -/
  | cutShort
  /-- The text is JSON of another shape. -/
  | mistyped
  deriving DecidableEq, Repr, Inhabited

/-- The decoding error of a fault of the text. -/
def Fault.error : Fault → DecodeError
  | .malformed => .malformed
  | .cutShort => .cutShort

/-- Decodes one value. -/
abbrev Decoder (α : Type) := Doc → Except DecodeError α

/-- Fails with a fault of the text if there is one. -/
def failOn : Option Fault → Except DecodeError Unit
  | none => .ok ()
  | some f => .error f.error

/-- The error at a value of the wrong kind: a fault inside a scalar comes first. -/
def Doc.wrongKind : Doc → DecodeError
  | .broken strict _ _ => strict.error
  | .number (.error f) => f.error
  | .string (.error f) => f.error
  | _ => .mistyped

namespace Decode

def string : Decoder String
  | .string (.ok s) => .ok s
  | d => .error d.wrongKind

def bool : Decoder Bool
  | .bool b => .ok b
  | d => .error d.wrongKind

/-- A whole number of 64 bits with sign. -/
def int64 : Decoder Int64
  | .number (.ok (.whole n)) =>
    if -9223372036854775808 ≤ n ∧ n < 9223372036854775808 then .ok (Int64.ofInt n) else .error .mistyped
  | d => .error d.wrongKind

/-- A value or null. -/
def option {α : Type} (item : Decoder α) : Decoder (Option α)
  | .null => .ok none
  | d => some <$> item d

def list {α : Type} (item : Decoder α) : Decoder (List α)
  | .array items ending => do
    let values ← items.mapM item
    failOn ending
    return values
  | d => .error d.wrongKind

/-- The members of a map, each put over an earlier one of the same key. -/
def mapMembers {α : Type} (item : Decoder α) :
    SortedMap α → List (Except Fault String × Doc) → Except DecodeError (SortedMap α)
  | m, [] => .ok m
  | _, (.error f, _) :: _ => .error f.error
  | m, (.ok k, d) :: rest => do
    let v ← item d
    mapMembers item (m.insert k v) rest

/-- A map from texts. -/
def map {α : Type} (item : Decoder α) : Decoder (SortedMap α)
  | .object members ending => do
    let m ← mapMembers item .empty members
    failOn ending
    return m
  | .misnamed _ => .error .malformed
  | d => .error d.wrongKind

/-- A constant written as its name, or as an object with null under its name. -/
def constant {α : Type} (ofName : String → Option α) : Decoder α
  | .string (.ok s) => named s
  | .string (.error f) => .error f.error
  | .broken strict _ inWord => .error (if inWord then .malformed else strict.error)
  | .misnamed first => .error first.wrongKind
  | .object [] ending => .error ((ending.getD .malformed).error)
  | .object ((.error f, _) :: _) _ => .error f.error
  | .object ((.ok k, d) :: rest) ending => do
    let v ← named k
    match d with
    | .null => pure ()
    | d => .error d.wrongKind
    match rest with
    | [] => failOn ending
    | _ => .error .malformed
    return v
  | _ => .error .malformed
where
  /-- The constant of a name. -/
  named (s : String) : Except DecodeError α :=
    match ofName s with
    | some v => .ok v
    | none => .error .mistyped

end Decode

/-! ## Records -/

/-- One field of a record that is decoded into `σ`. -/
structure Field (σ : Type) where
  name : String
  required : Bool
  set : Doc → σ → Except DecodeError σ

namespace Record

variable {σ : Type}

/-- A field whose value is decoded and stored. -/
def field {α : Type} (name : String) (required : Bool) (item : Decoder α) (put : α → σ → σ) : Field σ where
  name := name
  required := required
  set d s := (put · s) <$> item d

/-- Decodes the fields in order from the items of an array. -/
def readRow : List (Field σ) → List Doc → Option Fault → σ → Except DecodeError σ
  | [], [], ending, s => do failOn ending; return s
  | [], _ :: _, _, _ => .error .malformed
  | f :: fs, d :: ds, ending, s => do
    let s ← f.set d s
    readRow fs ds ending s
  | f :: fs, [], ending, s => do
    failOn ending
    if f.required then .error .mistyped else readRow fs [] ending s

/-- Goes through the members of an object; `seen` holds the names of the fields met so far. -/
def readMembers (fields : List (Field σ)) :
    List String → List (Except Fault String × Doc) → σ → Except DecodeError (List String × σ)
  | seen, [], s => .ok (seen, s)
  | _, (.error f, _) :: _, _ => .error f.error
  | seen, (.ok k, d) :: rest, s =>
    match fields.find? fun f => f.name = k with
    | none =>
      match d.skipFault with
      | some f => .error f.error
      | none => readMembers fields seen rest s
    | some f =>
      if k ∈ seen then .error .mistyped
      else do
        let s ← f.set d s
        readMembers fields (k :: seen) rest s

/-- Decodes a record, starting from its defaults. -/
def read (fields : List (Field σ)) (start : σ) : Decoder σ
  | .array items ending => readRow fields items ending start
  | .object members ending => do
    let (seen, s) ← readMembers fields [] members start
    failOn ending
    if fields.all fun f => !f.required || seen.contains f.name then return s else .error .mistyped
  | .misnamed _ => .error .malformed
  | d => .error d.wrongKind

end Record

/-! ## Whole texts -/

/-- Decodes a text that holds one value. -/
def decodeText {α : Type} (item : Decoder α) (text : String) : Except DecodeError α := do
  let (d, rest) := Doc.read text.toList
  let v ← item d
  if (skipSpace rest).isEmpty then return v else .error .malformed

end DeployWatch.Json
