import DeployWatch.Number.Digits

/-!
# Socket addresses

An address is four decimal numbers with dots, or eight hexadecimal groups with colons in square brackets,
and a socket number behind a colon. A run of zero groups may be left out once, and the last two groups may be
written as four decimal numbers.

* `SocketAddress`, `SocketAddress.parse?`;
* `SocketAddress.isLocal`: whether a host without outer networks can listen there.
-/

namespace DeployWatch

open Number (digitValue decimal)

/-- An address and a socket number. -/
inductive SocketAddress where
  | v4 (octets : List Nat) (socket : Nat)
  | v6 (groups : List Nat) (scope socket : Nat)
  deriving DecidableEq, Repr, Inhabited

namespace SocketAddress

/-- What a reader makes of a text: a value and the rest. -/
abbrev Reader (α : Type) := List Char → Option (α × List Char)

def char (c : Char) : Reader Unit
  | d :: rest => if d = c then some ((), rest) else none
  | [] => none

/-- The digits of a base at the start of a text. -/
def digitRun (base : Nat) (cs : List Char) : List Char :=
  cs.takeWhile fun c => (digitValue c).any (· < base)

/-- Reads a number below `bound`. -/
def number (base bound : Nat) : Reader Nat := fun cs =>
  let ds := digitRun base cs
  match Number.natOfDigits base ds with
  | some n => if n < bound then some (n, cs.drop ds.length) else none
  | none => none

/-- Reads an octet: at most three digits, and no zero before another digit. -/
def octet : Reader Nat := fun cs =>
  let ds := digitRun 10 cs
  if 3 < ds.length ∨ (ds.head? = some '0' ∧ 1 < ds.length) then none else number 10 256 cs

/-- Reads four octets with dots between them. -/
def octets : Reader (List Nat) := fun cs => do
  let (a, cs) ← octet cs
  let ((), cs) ← char '.' cs
  let (b, cs) ← octet cs
  let ((), cs) ← char '.' cs
  let (c, cs) ← octet cs
  let ((), cs) ← char '.' cs
  let (d, cs) ← octet cs
  return ([a, b, c, d], cs)

/-- Reads a group of at most four hexadecimal digits. -/
def group : Reader Nat := fun cs =>
  if 4 < (digitRun 16 cs).length then none else number 16 65536 cs

/-- Reads a colon, except before the first of several groups, and then an item. -/
def separated {α : Type} (first : Bool) (item : Reader α) : Reader α := fun cs =>
  if first then item cs
  else match char ':' cs with
    | some ((), cs) => item cs
    | none => none

/-- Reads at most a number of groups, the last two perhaps written as octets; the flag says whether they
are. -/
def groups : Nat → Bool → List Char → (List Nat × Bool) × List Char
  | 0, _, cs => (([], false), cs)
  | left + 1, first, cs =>
    match (separated first octets cs).filter fun _ => 0 < left with
    | some ([a, b, c, d], rest) => (([a * 256 + b, c * 256 + d], true), rest)
    | _ =>
      match separated first group cs with
      | none => (([], false), cs)
      | some (g, rest) =>
        let ((gs, dotted), rest) := groups left false rest
        ((g :: gs, dotted), rest)

/-- Reads eight groups, or fewer with two colons for the zeros between them. -/
def allGroups : Reader (List Nat) := fun cs =>
  let ((head, dotted), rest) := groups 8 true cs
  if head.length = 8 then some (head, rest)
  else if dotted then none
  else do
    let ((), rest) ← char ':' rest
    let ((), rest) ← char ':' rest
    let ((tail, _), rest) := groups (7 - head.length) true rest
    return (head ++ List.replicate (8 - head.length - tail.length) 0 ++ tail, rest)

/-- Reads the number of a network interface behind a percent sign, if there is one. -/
def scope : Reader Nat := fun cs =>
  match char '%' cs with
  | some ((), cs) => number 10 4294967296 cs
  | none => some (0, cs)

def socketNumber : Reader Nat := fun cs => do
  let ((), cs) ← char ':' cs
  number 10 65536 cs

def readV4 : Reader SocketAddress := fun cs => do
  let (o, cs) ← octets cs
  let (p, cs) ← socketNumber cs
  return (v4 o p, cs)

def readV6 : Reader SocketAddress := fun cs => do
  let ((), cs) ← char '[' cs
  let (g, cs) ← allGroups cs
  let (s, cs) ← scope cs
  let ((), cs) ← char ']' cs
  let (p, cs) ← socketNumber cs
  return (v6 g s p, cs)

def parse? (s : String) : Option SocketAddress :=
  match readV4 s.toList <|> readV6 s.toList with
  | some (a, []) => some a
  | _ => none

/-- Whether a host without outer networks can listen on four octets: its loopback network, all
addresses, or an address that stands for many hosts. -/
def isLocalV4 : List Nat → Bool
  | [a, b, c, d] => a == 127 || a == 0 || (224 ≤ a && a < 240) || [a, b, c, d] == [255, 255, 255, 255]
  | _ => false

/-- Whether a host without outer networks can listen on an address. -/
def isLocal : SocketAddress → Bool
  | v4 o _ => isLocalV4 o
  | v6 [0, 0, 0, 0, 0, 0xffff, x, y] _ _ => isLocalV4 [x / 256, x % 256, y / 256, y % 256]
  | v6 g _ _ => g == [0, 0, 0, 0, 0, 0, 0, 0] || g == [0, 0, 0, 0, 0, 0, 0, 1]

end SocketAddress

inductive ListenError where
  | badAddress
  | notAvailable
  deriving DecidableEq, Repr, Inhabited

def ListenError.message : ListenError → String
  | badAddress => "invalid socket address syntax"
  | notAvailable => "Cannot assign requested address (os error 99)"

/-- The address text of a host and a socket number. -/
def bindText (host : String) (socket : Nat) : String := host ++ ":" ++ String.ofList (decimal socket)

/-- Starts to listen on a host without outer networks. -/
def listen (address : String) : Except ListenError Unit :=
  match SocketAddress.parse? address with
  | none => .error .badAddress
  | some a => if a.isLocal then .ok () else .error .notAvailable

end DeployWatch
