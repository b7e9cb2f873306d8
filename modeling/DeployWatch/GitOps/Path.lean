import DeployWatch.Text.Split

/-!
# Paths

* `Step`, `steps`: the steps of a path, where repeated slashes and inner dots count for nothing;
* `staysInside`: whether a path is relative and never goes up;
* `joinPath`: a name below a directory.
-/

namespace DeployWatch

inductive Step where
  | root
  | here
  | up
  | down (name : String)
  deriving DecidableEq, Repr, Inhabited

/-- The step of a part, if it makes one; a dot does only at the start of the path. -/
def stepOf (part : List Char) : Option Step :=
  if part.isEmpty || part == ['.'] then none
  else if part = ['.', '.'] then some .up
  else some (.down (String.ofList part))

def steps (path : String) : List Step :=
  let parts := Text.splitAt '/' path.toList
  let inner := parts.filterMap stepOf
  match path.toList, parts with
  | '/' :: _, _ => .root :: inner
  | _, ['.'] :: _ => .here :: inner
  | _, _ => inner

/-- Whether a path stays inside the directory it starts from. -/
def staysInside (path : String) : Bool :=
  (steps path).all fun s =>
    match s with
    | .here => true
    | .down _ => true
    | _ => false

/-- The path of a relative name below a directory. -/
def joinPath (dir name : String) : String :=
  if dir.isEmpty || dir.toList.getLast? == some '/' then dir ++ name else dir ++ "/" ++ name

end DeployWatch
