import DeployWatch.GitOps.Path
import DeployWatch.Text.Utf8

/-!
# File trees

The files of a working copy, with the errors of reading and writing them by path. Paths may lead out of
the working copy through `..`.

* `Place`, `FileTree`, `FileTree.find?`;
* `FileTree.readText`, `FileTree.makeDirectories`, `FileTree.writeText`;
* `FileTree.ofPaths`: the tree of a list of files by path.
-/

namespace DeployWatch

/-- Why a file cannot be read or written. -/
inductive FileError where
  | notFound
  | occupied
  | notADirectory
  | isADirectory
  | nameTooLong
  | nulInName
  | notText
  deriving DecidableEq, Repr, Inhabited

def FileError.message : FileError → String
  | notFound => "No such file or directory (os error 2)"
  | occupied => "File exists (os error 17)"
  | notADirectory => "Not a directory (os error 20)"
  | isADirectory => "Is a directory (os error 21)"
  | nameTooLong => "File name too long (os error 36)"
  | nulInName => "file name contained an unexpected NUL byte"
  | notText => "stream did not contain valid UTF-8"

/-- A place: how many directories above the root of the tree, and the names below that. -/
structure Place where
  above : Nat := 0
  names : List String := []
  deriving DecidableEq, Repr, Inhabited

/-- What stands at a place. -/
inductive Item where
  | file (bytes : List UInt8)
  | directory
  deriving DecidableEq, Repr, Inhabited

/-- Files and directories by place; the root and what is above it need no entry. -/
structure FileTree where
  items : List (Place × Item) := []
  deriving DecidableEq, Repr, Inhabited

namespace FileTree

def find? (t : FileTree) (p : Place) : Option Item :=
  if p.names.isEmpty then some .directory else t.items.lookup p

def put (t : FileTree) (p : Place) (i : Item) : FileTree :=
  ⟨(p, i) :: t.items.filter fun e => e.1 != p⟩

/-- The directory above a place; two levels above the root lies the top of all directories. -/
def parent (p : Place) : Place :=
  match p.names with
  | [] => ⟨min (p.above + 1) 2, []⟩
  | _ => { p with names := p.names.dropLast }

/-- Goes one step from a place, which must be a directory. -/
def walk (t : FileTree) (p : Place) (s : Step) : Except FileError Place :=
  match t.find? p with
  | none => .error .notFound
  | some (.file _) => .error .notADirectory
  | some .directory =>
    match s with
    | .root => .ok ⟨2, []⟩
    | .here => .ok p
    | .up => .ok (parent p)
    | .down name =>
      if 255 < name.utf8ByteSize then .error .nameTooLong
      else .ok { p with names := p.names ++ [name] }

/-- The place that steps lead to from the root of the tree. -/
def locate (t : FileTree) (ss : List Step) : Except FileError Place := ss.foldlM t.walk {}

/-- The bytes of the longest path that can be used below a working copy. -/
def maxPath : Nat := 4079

/-- Refuses a path that no system call takes. -/
def checkPath (path : String) : Except FileError Unit :=
  if path.toList.contains '\x00' then .error .nulInName
  else if maxPath < path.utf8ByteSize then .error .nameTooLong
  else .ok ()

def readText (t : FileTree) (path : String) : Except FileError String := do
  checkPath path
  let p ← t.locate (steps path)
  match t.find? p with
  | none => .error .notFound
  | some .directory => .error .isADirectory
  | some (.file bytes) =>
    match Text.decodeUtf8 bytes with
    | some s => return s
    | none => .error .notText

/-- Makes one directory. -/
def makeDirectory (t : FileTree) (ss : List Step) : Except FileError FileTree := do
  let p ← t.locate ss
  match t.find? p with
  | some _ => .error .occupied
  | none => return t.put p .directory

def isDirectory (t : FileTree) (ss : List Step) : Bool :=
  match t.locate ss with
  | .ok p => t.find? p == some .directory
  | .error _ => false

/-- Makes a directory and those above it; the steps stand last first. -/
def makeDirectories (t : FileTree) : List Step → Except FileError FileTree
  | [] => .ok t
  | s :: before =>
    let ss := (s :: before).reverse
    match t.makeDirectory ss with
    | .ok t => .ok t
    | .error .notFound => do
      let t ← t.makeDirectories before
      match t.makeDirectory ss with
      | .ok t => return t
      | .error e => if t.isDirectory ss then return t else .error e
    | .error e => if t.isDirectory ss then .ok t else .error e

/-- Writes a text into a file, which is made if it does not exist. -/
def writeText (t : FileTree) (path text : String) : Except FileError FileTree := do
  checkPath path
  let p ← t.locate (steps path)
  match t.find? p with
  | some .directory => .error .isADirectory
  | _ => return t.put p (.file (Text.encodeUtf8 text))

/-- The directory part of a path's steps, last first. -/
def directorySteps (path : String) : List Step := (steps path).reverse.drop 1

/-- A tree with a file or directory at each path; directories above it are made. -/
def ofPaths (items : List (String × Item)) : FileTree :=
  items.foldl (fun t (path, item) =>
    match t.makeDirectories (directorySteps path) with
    | .error _ => t
    | .ok t =>
      match t.locate (steps path) with
      | .ok p => t.put p item
      | .error _ => t) {}

end FileTree

end DeployWatch
