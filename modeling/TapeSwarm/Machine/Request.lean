import TapeSwarm.Machine.Snapshot

/-!
The requests a machine answers.

A machine's history is a list of requests. A request that offers a source which is no tape is
answered with the fault; what the machine is then is part of the response, too.
-/

namespace TapeSwarm.Machine

variable {size : Nat}

/-- What a machine can be told to do. -/
inductive Request where
  | reset
  | load (source : Source)
  | feed (source : Source)
  | step
  | run (budget : Budget)
  | execute (source : Source) (budget : Budget) (patternSize : Int)

/-- What a machine answers. -/
inductive Reply where
  | done
  | stepped (moved : Bool)
  | ran (operations : Nat)
  | executed (snapshot : Snapshot)
  deriving Repr

/-- The machine after a request, its answer, and what happened meanwhile. -/
structure Response (size : Nat) where
  machine : Machine size
  reply : Except TapeFault Reply
  events : List Event

/-- What loading a tape reports: the `]` that stopped the bracket scan, if there is one. -/
def loadingEvents (tape : Tape) : List Event :=
  ((Brackets.scan tape).stray.map Event.strayBracket).toList

/-- Carries out a request. -/
def respond (m : Machine size) : Request → Response size
  | .reset => ⟨m.reset, .ok .done, []⟩
  | .load source =>
    match source.read with
    | .error fault => ⟨m, .error fault, []⟩
    | .ok tape => ⟨m.load tape, .ok .done, loadingEvents tape⟩
  | .feed source =>
    match source.read with
    | .error fault => ⟨m, .error fault, []⟩
    | .ok values => ⟨m.feed values, .ok .done, []⟩
  | .step =>
    let (next, moved) := m.step
    ⟨next, .ok (.stepped moved), []⟩
  | .run budget =>
    let done := m.run budget
    ⟨done.machine, .ok (.ran done.machine.operations), done.overrun.toList⟩
  | .execute source budget patternSize =>
    let (next, result) := m.execute source budget patternSize
    ⟨next, result.map .executed, match source.read with
      | .error _ => []
      | .ok tape => loadingEvents tape⟩

/-- The machine after a history of requests. -/
def after (m : Machine size) (history : List Request) : Machine size :=
  history.foldl (fun m request => (m.respond request).machine) m

/-- Writes one cell; a position outside the ring is ignored. -/
def poke (m : Machine size) (position : Nat) (value : UInt8) : Machine size :=
  { m with memory := m.memory.setIfInBounds position value }

/-- Writes all cells. -/
def fill (m : Machine size) (value : UInt8) : Machine size :=
  { m with memory := Vector.replicate size value }

/-- Moves the data pointer; positions count around the ring. -/
def pointAt (m : Machine size) (position : Nat) : Machine size :=
  { m with
    dataPointer := ⟨position % size, Nat.mod_lt _ (Nat.zero_lt_of_lt m.dataPointer.isLt)⟩ }

/-- Moves the code pointer. -/
def jump (m : Machine size) (position : Nat) : Machine size :=
  { m with codePointer := position }

end TapeSwarm.Machine
