import DeployWatch.Program.Alone

/-!
# Running programs together

A crew is a list of programs that run by turns in one state. A program goes on until it has to wait: for
a time, or for a lock that another one holds. Then the next one takes its turn, in the order in which
they became ready. Time passes only when all wait.

* `Crew`, `Crew.turn`: one request of the program whose turn it is;
* `Crew.wake`: lets time pass until the next program wakes;
* `Crew.run`, `Crew.ofPrograms`, `runTogether`.
-/

namespace DeployWatch

/-- A program of a crew with its number. -/
structure Member (α : Type) where
  number : Nat
  rest : Program α

/-- Programs that run in one state. -/
structure Crew (σ α : Type) where
  state : σ
  /-- Programs that can go on, the one whose turn it is first. -/
  ready : List (Member α)
  /-- Programs that wait for a time, the next one to wake first. -/
  asleep : List (Nat × Member α) := []
  /-- The locks that are held, each with the programs that wait for it. -/
  held : List (String × List (Member α)) := []
  /-- The results so far, with the numbers of their programs. -/
  ended : List (Nat × α) := []

namespace Crew

variable {σ α : Type}

/-- Puts a program among those that sleep, behind those that wake no later. -/
def putToSleep (due : Nat) (m : Member α) : List (Nat × Member α) → List (Nat × Member α)
  | [] => [(due, m)]
  | e :: rest => if due < e.1 then (due, m) :: e :: rest else e :: putToSleep due m rest

/-- Changes the queue of one lock. -/
def changeQueue (key : String) (change : List (Member α) → List (Member α))
    (held : List (String × List (Member α))) : List (String × List (Member α)) :=
  held.map fun e => if e.1 = key then (e.1, change e.2) else e

/-- Takes a lock for the program whose turn it is, or lets it wait behind others. -/
def acquire (c : Crew σ α) (key : String) (m : Member α) (others : List (Member α)) : Crew σ α :=
  match c.held.lookup key with
  | none => { c with ready := m :: others, held := (key, []) :: c.held }
  | some _ => { c with ready := others, held := changeQueue key (· ++ [m]) c.held }

/-- Gives a lock to the program that has waited longest for it, or sets it free. -/
def release (c : Crew σ α) (key : String) (m : Member α) (others : List (Member α)) : Crew σ α :=
  match c.held.lookup key with
  | some (first :: _) =>
    { c with ready := m :: others ++ [first], held := changeQueue key (·.drop 1) c.held }
  | _ => { c with ready := m :: others, held := c.held.filter fun e => e.1 ≠ key }

/-- Lets a program go on, at once or, if its request took time, when that has passed. -/
def goOn (s : Surroundings σ) (c : Crew σ α) (state : σ) (m : Member α) (others : List (Member α)) :
    Crew σ α :=
  let now := s.time c.state
  if now < s.time state then
    { c with
      state := s.atTime now state
      ready := others
      asleep := putToSleep (s.time state) m c.asleep }
  else { c with state := state, ready := m :: others }

/-- One request of the program whose turn it is, or its end. -/
def turn (s : Surroundings σ) (c : Crew σ α) : Crew σ α :=
  match c.ready with
  | [] => c
  | m :: others =>
    match m.rest with
    | .done a => { c with ready := others, ended := c.ended ++ [(m.number, a)] }
    | .ask r next =>
      let (x, state) := s.answer r c.state
      let after : Member α := { m with rest := next x }
      match r with
      | .acquire key => { c with state := state }.acquire key after others
      | .release key => { c with state := state }.release key after others
      | _ => goOn s c state after others

/-- Lets time pass until a program wakes, and wakes all that do so then. -/
def wake (s : Surroundings σ) (c : Crew σ α) : Crew σ α :=
  match c.asleep with
  | [] => c
  | (due, _) :: _ =>
    { c with
      state := s.atTime due c.state
      ready := c.ready ++ (c.asleep.takeWhile fun e => e.1 = due).map (·.2)
      asleep := c.asleep.dropWhile fun e => e.1 = due }

/-- Whether no program can ever go on. -/
def isOver (c : Crew σ α) : Bool := c.ready.isEmpty && c.asleep.isEmpty

/-- Runs a crew, for so many turns at most. -/
def run (s : Surroundings σ) : Nat → Crew σ α → Crew σ α
  | 0, c => c
  | fuel + 1, c =>
    if c.isOver then c
    else run s fuel (if c.ready.isEmpty then c.wake s else c.turn s)

end Crew

/-- More turns than any crew makes that ends in a lifetime. -/
def manyTurns : Nat := 4611686018427387904

/-- Programs that are all ready to start, each with its place as its number. -/
def Crew.ofPrograms {σ α : Type} (programs : List (Program α)) (state : σ) : Crew σ α where
  state := state
  ready := programs.zipIdx.map fun (p, i) => ⟨i, p⟩

/-- Runs programs together from a state to their results and the state then. -/
def runTogether {σ α : Type} (s : Surroundings σ) (programs : List (Program α)) (state : σ) :
    List (Option α) × σ :=
  let c := Crew.run s manyTurns (.ofPrograms programs state)
  ((List.range programs.length).map fun i => c.ended.lookup i, c.state)

end DeployWatch
