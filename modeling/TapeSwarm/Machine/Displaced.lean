import TapeSwarm.Machine.Request

/-!
Machines whose pointers were put anywhere.

Whoever holds a machine may put its pointers on any integer. A data pointer beyond the ring stands
on the cell that it reaches by full turns, but only one turn back is followed when the cell is
needed. A code pointer before the program counts from the end, has no part in the bracket table, and
moves on like any other. A move of the data pointer brings it back onto the ring, a jump the code
pointer into the program. What cannot be reached is a fault, and leaves behind what happened before
it.

A machine in place (`inPlace`) steps as it always does.
-/

namespace TapeSwarm

/-- A machine, and how far its pointers were put beyond their ranges. -/
structure Displaced (size : Nat) where
  machine : Machine size
  /-- Full turns around the ring that the data pointer is away from its cell. -/
  turns : Int
  /-- How far the code pointer, where the machine has it at the start, is before the start. -/
  before : Nat

namespace Displaced

variable {size : Nat}

/-- Why a machine cannot go on, or a cell not be written. -/
inductive Fault where
  /-- The code pointer is farther before the program than the program is long. -/
  | codeOutside (before : Nat)
  | dataOutside (position : Int) (size : Nat)
  /-- A cell was to hold an integer that is no byte. -/
  | notByte (value : Int)
  deriving DecidableEq, Repr

/-- The kinds of fault. -/
inductive Fault.Kind where
  | noIndex
  | tooLarge
  deriving DecidableEq, Repr

/-- The kind of a fault. -/
def Fault.kind : Fault → Kind
  | codeOutside _ => .noIndex
  | dataOutside position _ =>
    if Capacity.reach position = .unsigned then .tooLarge else .noIndex
  | notByte _ => .tooLarge

/-- The words for an integer that no signed word holds. -/
def wordMessage : String := "Python int too large to convert to C long"

/-- The words for a fault. -/
def Fault.message : Fault → String
  | codeOutside before =>
    if Capacity.largestIndex + 1 < before then "cannot fit 'int' into an index-sized integer"
    else "index out of range"
  | dataOutside position size =>
    match Capacity.reach position with
    | .signed =>
      "index " ++ toString position ++ " is out of bounds for axis 0 with size " ++ toString size
    | .unsigned => wordMessage
    | .none =>
      "only integers, slices (`:`), ellipsis (`...`), numpy.newaxis (`None`) and integer or "
        ++ "boolean arrays are valid indices"
  | notByte value =>
    if Capacity.reach value = .signed then
      "Python integer " ++ toString value ++ " out of bounds for uint8"
    else wordMessage

/-- A machine with its pointers in place. -/
def inPlace (machine : Machine size) : Displaced size := ⟨machine, 0, 0⟩

/-- Where the data pointer was put. -/
def dataPointer (d : Displaced size) : Int :=
  (d.machine.dataPointer.val : Int) + d.turns * (size : Int)

/-- Where the code pointer was put. -/
def codePointer (d : Displaced size) : Int :=
  (d.machine.codePointer : Int) - (d.before : Int)

/-- Puts the data pointer anywhere. -/
def pointAt (d : Displaced size) (position : Int) : Displaced size :=
  { d with
    machine := d.machine.pointAt (position % (size : Int)).toNat
    turns := position / (size : Int) }

/-- Puts the code pointer anywhere. -/
def jump (d : Displaced size) (position : Int) : Displaced size :=
  { d with machine := d.machine.jump position.toNat, before := (-position).toNat }

/-- Whether the code pointer is past the program. -/
def isHalted (d : Displaced size) : Bool :=
  d.before = 0 && d.machine.isHalted

/-- Whether the cell under the data pointer can be reached. -/
def isOnRing (d : Displaced size) : Bool :=
  d.turns = 0 || d.turns = -1

/-- The fault of a cell that cannot be reached. -/
def dataFault (d : Displaced size) : Fault :=
  .dataOutside d.dataPointer size

/-- The index of the instruction under the code pointer. -/
def indexIn? (code : Machine.Code) (d : Displaced size) : Option Nat :=
  if d.before = 0 then some d.machine.codePointer
  else if d.before ≤ code.length then some (code.length - d.before)
  else none

/-! ## Steps -/

/-- Whether an instruction needs the cell under the data pointer. -/
def needsCell (m : Machine size) : Option Instruction → Bool
  | some .increment | some .decrement | some .emit | some .opening | some .closing => true
  | some .accept => !m.input.isEmpty
  | some .right | some .left | none => false

/-- Whether an instruction jumps. -/
def jumps (m : Machine size) : Option Instruction → Bool
  | some .opening => m.cell = 0
  | some .closing => m.cell ≠ 0
  | _ => false

/-- Whether an instruction moves the data pointer. -/
def moves : Option Instruction → Bool
  | some .right | some .left => true
  | _ => false

/-- What an instruction leaves whose cell cannot be reached: it was counted, its input is gone. -/
def stumble (d : Displaced size) (instruction : Option Instruction) : Displaced size :=
  { d with
    machine :=
      { d.machine with
        operations := d.machine.operations + 1
        status := .running
        input := if instruction = some .accept then d.machine.input.tail else d.machine.input } }

/-- Performs the instruction at an index of some code. Before the code there are no brackets to jump
from. -/
def performIn (code : Machine.Code) (d : Displaced size) (index : Nat)
    (instruction : Option Instruction) : Displaced size :=
  let settles := d.before = 0 || jumps d.machine instruction
  let turns := if moves instruction then 0 else d.turns
  let code := if d.before = 0 then code else { code with partner? := fun _ => none }
  let start := { d.machine with codePointer := index }
  let next := Machine.advanceIn code (Machine.performIn code start instruction)
  if settles then ⟨next, turns, 0⟩
  else ⟨{ next with codePointer := 0, status := .running }, turns, d.before - 1⟩

/-- Performs one instruction of some code; answers whether there was one. -/
def stepIn (code : Machine.Code) (d : Displaced size) : Displaced size × Except Fault Bool :=
  match d.indexIn? code with
  | none => (d, .error (.codeOutside d.before))
  | some index =>
    match code.byte? index with
    | none => ({ d with machine := { d.machine with status := .halted } }, .ok false)
    | some b =>
      let instruction := Instruction.ofByte? b
      if needsCell d.machine instruction && !d.isOnRing then
        (d.stumble instruction, .error d.dataFault)
      else (performIn code d index instruction, .ok true)

/-- Performs one instruction; answers whether there was one. -/
def step (d : Displaced size) : Displaced size × Except Fault Bool :=
  stepIn d.machine.code d

/-- A machine in place steps as it always does. -/
theorem step_inPlace (m : Machine size) :
    step (inPlace m) = (inPlace m.step.1, .ok m.step.2) := by
  cases found : m.code.byte? m.codePointer with
  | none => simp [step, stepIn, inPlace, indexIn?, Machine.step, Machine.stepIn, found]
  | some b =>
    simp [step, stepIn, inPlace, indexIn?, Machine.step, Machine.stepIn, found, isOnRing, performIn]

/-- What a step shows: whether there was an instruction, both pointers, the cell. -/
abbrev View := Bool × Int × Int × UInt8

/-- Steps on `n` times and views the machine after each step; `views` are the past ones, the last
one first. -/
def traceFrom (code : Machine.Code) (views : List View) :
    Nat → Displaced size → Displaced size × Except Fault (List View)
  | 0, d => (d, .ok views.reverse)
  | n + 1, d =>
    match stepIn code d with
    | (next, .error fault) => (next, .error fault)
    | (next, .ok stepped) =>
      if next.isOnRing then
        let view := (stepped, next.codePointer, next.dataPointer, next.machine.cell)
        traceFrom code (view :: views) n next
      else (next, .error next.dataFault)

/-- The views of the machine after each of `n` steps. -/
def trace (n : Nat) (d : Displaced size) : Displaced size × Except Fault (List View) :=
  traceFrom d.machine.indexedCode [] n d

/-! ## Runs -/

/-- Steps on, at most `fuel` times, with `taken` steps behind; answers the ceiling's warning if it
was met. -/
def runFrom (code : Machine.Code) (ceiling : Int) :
    Nat → Nat → Displaced size → Displaced size × Except Fault (Option Event)
  | 0, _, d => (d, .ok none)
  | fuel + 1, taken, d =>
    if d.before = 0 && code.length ≤ d.machine.codePointer then (d, .ok none)
    else
      match stepIn code d with
      | (next, .error fault) => (next, .error fault)
      | (next, .ok _) =>
        if ceiling < next.machine.operations then
          (next, .ok (some (.overrun next.machine.operations ceiling (taken + 1))))
        else runFrom code ceiling fuel (taken + 1) next

/-- Runs within a budget. A fault ends the run where it is, and does not halt the machine. -/
def run (d : Displaced size) (budget : Budget) :
    Displaced size × Except Fault (Option Event) :=
  let start := { d with machine := { d.machine with operations := 0 } }
  match runFrom d.machine.indexedCode budget.ceiling budget.allowance 0 start with
  | (last, .error fault) => (last, .error fault)
  | (last, .ok overrun) =>
    ({ last with machine := { last.machine with status := .halted } }, .ok overrun)

/-! ## Cells -/

/-- The byte that an integer is. -/
def byteOf (value : Int) : Except Fault UInt8 :=
  match byteOfInt? value with
  | some b => .ok b
  | none => .error (.notByte value)

/-- Writes one cell; a negative position counts from the end. -/
def poke (d : Displaced size) (position value : Int) : Except Fault (Displaced size) :=
  if -(size : Int) ≤ position ∧ position < (size : Int) then
    (byteOf value).map fun b =>
      { d with machine := d.machine.poke (position % (size : Int)).toNat b }
  else .error (.dataOutside position size)

/-- Writes all cells. -/
def fill (d : Displaced size) (value : Int) : Except Fault (Displaced size) :=
  (byteOf value).map fun b => { d with machine := d.machine.fill b }

/-! ## Requests -/

/-- Back to zero cells and pointers in place; program and input stay. -/
def reset (d : Displaced size) : Displaced size :=
  inPlace d.machine.reset

/-- Installs what a source holds; the pointers stay where they are. -/
def load (d : Displaced size) (source : Source) : Except TapeFault (Displaced size × List Event) :=
  source.read.map fun tape =>
    ({ d with machine := d.machine.load tape }, Machine.loadingEvents tape)

/-- Puts what a source holds at the end of the input queue. -/
def feed (d : Displaced size) (source : Source) : Except TapeFault (Displaced size) :=
  source.read.map fun values => { d with machine := d.machine.feed values }

end Displaced

end TapeSwarm
