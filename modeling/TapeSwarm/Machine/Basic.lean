import TapeSwarm.Capacity
import TapeSwarm.Tape.Brackets
import TapeSwarm.Tape.Source

/-!
The tape machine.

A machine owns a ring of byte cells, a pointer into the ring, a program with a pointer into it, a
queue of input bytes and the output so far. `step` performs one instruction; a jump puts the code
pointer on its target and the common advance then passes it. An unmatched `[` on a zero cell jumps
to the end, an unmatched `]` on a non-zero cell to the start, so that the byte at index 0 is not
performed again. Bytes that are no instructions count as performed and change nothing.
-/

namespace TapeSwarm

/-- Where a machine stands in its life. -/
inductive Status where
  | idle
  | loaded
  | running
  | halted
  deriving DecidableEq, Repr

/-- The word for a status. -/
def Status.name : Status → String
  | idle => "idle"
  | loaded => "loaded"
  | running => "running"
  | halted => "halted"

/-- A machine whose ring has `size` cells. -/
structure Machine (size : Nat) where
  memory : Vector UInt8 size
  dataPointer : Fin size
  codePointer : Nat
  /-- Instructions performed since the last reset or start of a run. -/
  operations : Nat
  output : Array UInt8
  input : List UInt8
  program : Tape
  brackets : Brackets
  status : Status

namespace Machine

variable {size : Nat}

/-- A machine that has not seen a program: all cells zero, all pointers at the start. -/
def blank (size : Nat) (positive : 0 < size) : Machine size where
  memory := Vector.replicate size 0
  dataPointer := ⟨0, positive⟩
  codePointer := 0
  operations := 0
  output := #[]
  input := []
  program := []
  brackets := []
  status := .idle

/-- The ring size where none is asked for. -/
def defaultSize : Nat := 30000

theorem defaultSize_pos : 0 < defaultSize := by decide

/-- Why a machine cannot be made: its ring would have no cells, or more than memory takes. -/
inductive SizeFault where
  | notPositive
  | capacity (fault : Capacity.Fault)
  deriving DecidableEq, Repr

/-- The words for a fault. -/
def SizeFault.message : SizeFault → String
  | notPositive => "memory_size must be positive"
  | capacity fault => fault.message

/-- The ring size that a number asks for. -/
def checkSize (room : Nat) (number : Int) : Except SizeFault { size : Nat // 0 < size } :=
  if positive : 0 < number.toNat then
    match Capacity.check room .byte number with
    | .ok _ => .ok ⟨number.toNat, positive⟩
    | .error fault => .error (.capacity fault)
  else .error .notPositive

/-- The cell under the data pointer. -/
def cell (m : Machine size) : UInt8 :=
  m.memory[m.dataPointer]

/-- Whether the code pointer is past the program. -/
def isHalted (m : Machine size) : Bool :=
  m.program.length ≤ m.codePointer

/-- Back to zero cells and pointers; program and input stay. -/
def reset (m : Machine size) : Machine size :=
  { m with
    memory := Vector.replicate size 0
    dataPointer := ⟨0, Nat.zero_lt_of_lt m.dataPointer.isLt⟩
    codePointer := 0
    operations := 0
    output := #[]
    status := .idle }

/-- Installs a program; memory and pointers stay. -/
def load (m : Machine size) (program : Tape) : Machine size :=
  { m with program, brackets := Brackets.ofTape program, status := .loaded }

/-- Puts bytes at the end of the input queue. -/
def feed (m : Machine size) (values : List UInt8) : Machine size :=
  { m with input := m.input ++ values }

/-- The next position clockwise on a ring. -/
def clockwise (p : Fin size) : Fin size :=
  ⟨(p + 1) % size, Nat.mod_lt _ (Nat.zero_lt_of_lt p.isLt)⟩

/-- The next position counterclockwise on a ring. -/
def counterclockwise (p : Fin size) : Fin size :=
  ⟨(p + (size - 1)) % size, Nat.mod_lt _ (Nat.zero_lt_of_lt p.isLt)⟩

/-- Writes the cell under the data pointer. -/
def write (m : Machine size) (value : UInt8) : Machine size :=
  { m with memory := m.memory.set m.dataPointer value }

/-- What a machine looks up in its program. -/
structure Code where
  length : Nat
  byte? : Nat → Option UInt8
  partner? : Nat → Option Nat

/-- The program and the bracket table of a machine. -/
def code (m : Machine size) : Code where
  length := m.program.length
  byte? i := m.program[i]?
  partner? := m.brackets.partner?

/-- Where an opening bracket goes on a zero cell. -/
def jumpForward (m : Machine size) (code : Code) : Nat :=
  (code.partner? m.codePointer).getD code.length

/-- Where a closing bracket goes on a non-zero cell. -/
def jumpBack (m : Machine size) (code : Code) : Nat :=
  (code.partner? m.codePointer).getD 0

/-- The effect of an instruction of some code, before the code pointer advances. -/
def performIn (code : Code) (m : Machine size) : Option Instruction → Machine size
  | some .right => { m with dataPointer := clockwise m.dataPointer }
  | some .left => { m with dataPointer := counterclockwise m.dataPointer }
  | some .increment => m.write (m.cell + 1)
  | some .decrement => m.write (m.cell - 1)
  | some .emit => { m with output := m.output.push m.cell }
  | some .accept =>
    match m.input with
    | [] => m
    | value :: rest => { m.write value with input := rest }
  | some .opening => if m.cell = 0 then { m with codePointer := m.jumpForward code } else m
  | some .closing => if m.cell = 0 then m else { m with codePointer := m.jumpBack code }
  | none => m

/-- Counts one operation, moves the code pointer on and notes whether the code is over. -/
def advanceIn (code : Code) (m : Machine size) : Machine size :=
  { m with
    codePointer := m.codePointer + 1
    operations := m.operations + 1
    status := if code.length ≤ m.codePointer + 1 then .halted else .running }

/-- Performs one instruction of some code; answers whether there was one. -/
def stepIn (code : Code) (m : Machine size) : Machine size × Bool :=
  match code.byte? m.codePointer with
  | none => ({ m with status := .halted }, false)
  | some b => (advanceIn code (performIn code m (Instruction.ofByte? b)), true)

/-- Performs one instruction; answers whether there was one. -/
def step (m : Machine size) : Machine size × Bool :=
  stepIn m.code m

end Machine

end TapeSwarm
