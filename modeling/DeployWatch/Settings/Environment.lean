import DeployWatch.Settings.Value
import DeployWatch.Text.Split

/-!
# Settings from environment variables

A variable counts if its name starts with `WATCHER__` in any case. Two underscores separate the names
along the path, and a position in a list stands in square brackets.

* `pathOf`: the path that a variable's name stands for;
* `ofEnvironment`: the tree of all variables over a tree of defaults;
* `isOutOfReach`: whether a variable stands for a position that no list can have.
-/

namespace DeployWatch.Settings

open Number (isDigit)

/-- The lower-case letters of a name; the sign for kelvin is a letter too. -/
def lowerName (s : String) : List Char := s.toList.map fun c => if c = '\u212A' then 'k' else c.toLower

/-- What the name of a variable starts with. -/
def nameStart : List Char := "watcher__".toList

/-- Writes a point for every two underscores. -/
def dotted : List Char → List Char
  | '_' :: '_' :: rest => '.' :: dotted rest
  | c :: rest => c :: dotted rest
  | [] => []

/-- The part of a variable's name that stands for a path, if it counts. -/
def keyOf (name : String) : Option (List Char) :=
  let cs := lowerName name
  if nameStart.isPrefixOf cs then some (dotted (cs.drop nameStart.length)) else none

/-- Whether a character can stand in a name along a path. -/
def isNameChar (c : Char) : Bool := c.isAlphanum || c == '_' || c == '-'

/-- Whether a character is a blank between a bracket and a position. -/
def isBlank (c : Char) : Bool := c == ' ' || c == '\t'

/-- Reads a whole number of 64 bits between blanks and the bracket behind it; it may have a minus sign. -/
def positionOf (cs : List Char) : Option (Int × List Char) :=
  let cs := cs.dropWhile isBlank
  let text := cs.takeWhile fun c => isDigit c || c == '-'
  match wholeOf (String.ofList text), (cs.drop text.length).dropWhile isBlank with
  | some n, ']' :: rest => some (n, rest)
  | _, _ => none

/-- Reads what follows the first name of a path; `fuel` bounds the number of parts. -/
def partsOf : Nat → List Char → Option (List Value.Part)
  | _, [] => some []
  | 0, _ => none
  | fuel + 1, '.' :: cs =>
    let name := cs.takeWhile isNameChar
    if name.isEmpty then none
    else (partsOf fuel (cs.drop name.length)).map (.name (String.ofList name) :: ·)
  | fuel + 1, '[' :: cs =>
    match positionOf cs with
    | some (n, rest) => (partsOf fuel rest).map (.position n :: ·)
    | none => none
  | _ + 1, _ => none

/-- The path of a key; a key that is no path stands for itself. -/
def pathOf (key : List Char) : List Value.Part :=
  (partsOf (key.length + 1) ('.' :: key)).getD [.name (String.ofList key)]

/-- The key whose value is a list of texts. -/
def listKey : List Char := "webhook.allowed_codes".toList

/-- The value of a variable: under the list's key, what looks like nothing else is a list. -/
def valueOf (key : List Char) (s : String) : Value :=
  match Value.ofScalar? s with
  | some v => v
  | none =>
    if key = listKey then .list ((Text.splitAt ',' s.toList).map fun cs => .text (String.ofList cs))
    else .text s

/-- Puts one variable into a tree, if it counts. -/
def putVariable (tree : Value) (entry : String × String) : Value :=
  match keyOf entry.1 with
  | none => tree
  | some key => Value.put (valueOf key entry.2) (pathOf key) tree

/-- The greatest position that the memory of a machine has room for. -/
def maxPosition : Nat := Nat.pow 2 56

/-- Whether a variable stands for a position that no list can have. -/
def isOutOfReach (entry : String × String) : Bool :=
  (keyOf entry.1).any fun key => (pathOf key).any fun part =>
    match part with
    | .name _ => false
    | .position n => maxPosition < n.natAbs

/-- The tree of all variables over a tree of defaults. -/
def ofEnvironment (defaults : Value) (environment : List (String × String)) : Value :=
  environment.foldl putVariable defaults

end DeployWatch.Settings
