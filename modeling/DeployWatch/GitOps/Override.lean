import DeployWatch.SortedMap
import DeployWatch.Text.Blank
import DeployWatch.Yaml.Printer
import DeployWatch.Yaml.Value

/-!
# Override files

An override file sets parameters of an application's chart. Keys that this program does not know stay
in the file.

* `Parameter`, `OverrideFile`: one parameter and the file;
* `OverrideFile.apply`: merges parameters by name;
* `OverrideFile.ofDocument`, `OverrideFile.toValue`: the file as a document;
* `TextLayer`, `TextLayer.parse`, `TextLayer.render`: the file as text;
* `OverrideFile.parse`, `OverrideFile.render`: the same in block style.
-/

namespace DeployWatch

open Yaml (Value Node Document ScalarStyle Walk follow readText readFlag)

def overrideFileName (app : String) : String := ".argocd-source-" ++ app ++ ".yaml"

/-- The name of the parameter that holds the tag of an image alias. -/
def imageTagParameter (name : String) : String := name ++ ".image.tag"

/-- A parameter of a chart. -/
structure Parameter where
  name : String
  value : String
  /-- Whether the value is a text even if it looks like something else. -/
  forceString : Bool
  deriving DecidableEq, Repr, Inhabited

structure OverrideFile where
  parameters : List Parameter := []
  /-- Further keys beside the parameters. -/
  helmExtra : SortedMap Value := .empty
  /-- Further keys of the file. -/
  extra : SortedMap Value := .empty
  deriving Inhabited

/-! ## Merging -/

/-- Puts a parameter into a list: over the first of its name, or at the end. -/
def putParameter (p : Parameter) : List Parameter → List Parameter
  | [] => [p]
  | q :: rest => if q.name = p.name then p :: rest else q :: putParameter p rest

/-- Whether putting a parameter into a list changes the list. -/
def changesParameters (p : Parameter) (ps : List Parameter) : Bool :=
  match ps.find? fun q => q.name = p.name with
  | some q => q != p
  | none => true

/-- Puts parameters into a list one after the other, and says whether any of them changed it. -/
def mergeParameters (batch : List Parameter) (ps : List Parameter) : List Parameter × Bool :=
  batch.foldl (fun (ps, changed) p => (putParameter p ps, changed || changesParameters p ps)) (ps, false)

/-- Merges parameters into a file, and says whether the file changed. -/
def OverrideFile.apply (f : OverrideFile) (batch : List Parameter) : OverrideFile × Bool :=
  let (ps, changed) := mergeParameters batch f.parameters
  ({ f with parameters := ps }, changed)

/-! ## Reading documents -/

namespace OverrideFile

/-- The collections that may lie inside one another in a file. -/
def maxDepth : Nat := 128

/-- Whether a scalar stands for an empty collection: a plain one without text. -/
def isEmptyScalar (style : ScalarStyle) (s : String) : Bool := style = .plain && s.isEmpty

/-- The entries of a mapping with the depth left for them; an empty plain scalar has none. -/
def entriesOf (depth : Nat) (n : Node) : Walk (Nat × List (Node × Node)) := do
  match ← follow n, depth with
  | .mapping _ entries, d + 1 => return (d, entries)
  | .scalar _ style s, d => if isEmptyScalar style s then return (d, []) else failure
  | _, _ => failure

/-- The items of a sequence with the depth left for them; an empty plain scalar has none. -/
def itemsOf (depth : Nat) (n : Node) : Walk (Nat × List Node) := do
  match ← follow n, depth with
  | .sequence _ items, d + 1 => return (d, items)
  | .scalar _ style s, d => if isEmptyScalar style s then return (d, []) else failure
  | _, _ => failure

/-- What is known of a parameter while its entries are read. -/
structure Draft where
  name : Option String := none
  value : Option String := none
  forceString : Option Bool := none

/-- Reads one entry of a parameter; a known key comes once, an unknown one is passed over. -/
def readParameterEntry (d : Draft) (entry : Node × Node) : Walk Draft := do
  match ← readText entry.1 with
  | "name" => if d.name.isSome then failure else return { d with name := some (← readText entry.2) }
  | "value" => if d.value.isSome then failure else return { d with value := some (← readText entry.2) }
  | "forcestring" =>
    if d.forceString.isSome then failure else return { d with forceString := some (← readFlag entry.2) }
  | _ => return d

def readParameter (depth : Nat) (n : Node) : Walk Parameter := do
  match ← follow n, depth with
  | .mapping _ entries, _ + 1 =>
    let d ← entries.foldlM readParameterEntry {}
    match d.name, d.value with
    | some name, some value => return ⟨name, value, d.forceString.getD false⟩
    | _, _ => failure
  | _, _ => failure

def readParameters (depth : Nat) (n : Node) : Walk (List Parameter) := do
  let (depth, items) ← itemsOf depth n
  items.mapM (readParameter depth)

/-- Reads one of several entries of which one key is known and comes once; the values of the others are
kept. -/
def readKnownEntry {α : Type} (known : String) (item : Node → Walk α) (depth : Nat)
    (seen : Option α × SortedMap Value) (entry : Node × Node) : Walk (Option α × SortedMap Value) := do
  let key ← readText entry.1
  if key = known then
    if seen.1.isSome then failure else return (some (← item entry.2), seen.2)
  else return (seen.1, seen.2.insert key (← Value.read depth entry.2))

/-- Reads entries of which one key is known. -/
def readKnown {α : Type} (known : String) (item : Nat → Node → Walk α) (depth : Nat) (n : Node) :
    Walk (Option α × SortedMap Value) := do
  let (depth, entries) ← entriesOf depth n
  entries.foldlM (readKnownEntry known (item depth) depth) (none, .empty)

def readRoot (n : Node) : Walk OverrideFile := do
  let (helm, extra) ← readKnown "helm" (readKnown "parameters" readParameters) maxDepth n
  let (parameters, helmExtra) := helm.getD (none, .empty)
  return { parameters := parameters.getD [], helmExtra := helmExtra, extra := extra }

/-- The file of a document. -/
def ofDocument (doc : Document) : Option OverrideFile :=
  ((readRoot doc.root).run doc |>.run 0).map (·.1)

/-! ## Writing documents -/

/-- The value of a parameter; the flag is left out when it is off. -/
def parameterValue (p : Parameter) : Value :=
  .mapping ([(.text "name", .text p.name), (.text "value", .text p.value)] ++
    if p.forceString then [(.text "forcestring", .bool true)] else [])

def extraEntries (extra : SortedMap Value) : List (Value × Value) :=
  extra.entries.map fun (k, v) => (.text k, v)

def toValue (f : OverrideFile) : Value :=
  .mapping ((.text "helm", .mapping ((.text "parameters", .sequence (f.parameters.map parameterValue)) ::
    extraEntries f.helmExtra)) :: extraEntries f.extra)

/-- Whether all further keys can be written. -/
def writable (f : OverrideFile) : Bool :=
  (f.helmExtra.entries ++ f.extra.entries).all fun e => e.2.writable

end OverrideFile

/-! ## Text -/

/-- How documents are kept as text: the reading of texts and the writing of values. -/
structure TextLayer where
  read : String → Option Document
  write : Value → Option String

namespace TextLayer

/-- Values in block style. -/
def block : TextLayer where
  read s := Document.read? s.toList
  write v := some v.toNode.render

/-- Reads a file; a blank text is a file without anything in it. -/
def parse (l : TextLayer) (s : String) : Option OverrideFile :=
  if Text.isBlankText s then some {}
  else (l.read s).bind OverrideFile.ofDocument

/-- Writes a file, if it can be written. -/
def render (l : TextLayer) (f : OverrideFile) : Option String :=
  if f.writable then l.write f.toValue else none

end TextLayer

namespace OverrideFile

def parse (s : String) : Option OverrideFile := TextLayer.block.parse s

def render (f : OverrideFile) : Option String := TextLayer.block.render f

/-- Whether two files hold the same. -/
def same (a b : OverrideFile) : Bool :=
  a.parameters == b.parameters && sameMap a.helmExtra b.helmExtra && sameMap a.extra b.extra
where
  /-- Whether two maps hold the same. -/
  sameMap (a b : SortedMap Value) : Bool :=
    a.size == b.size && (a.entries.zip b.entries).all fun (x, y) => x.1 == y.1 && x.2.same y.2

end OverrideFile

end DeployWatch
