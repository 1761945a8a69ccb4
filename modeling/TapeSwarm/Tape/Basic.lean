/-!
Tapes and the instructions written on them.

A tape is a list of bytes. Eight byte values are instructions; every other byte is filler, which a
machine passes over. `code` drops the filler and `complexity` counts what is left.
-/

namespace TapeSwarm

/-- The eight instructions a tape can carry. -/
inductive Instruction where
  | right
  | left
  | increment
  | decrement
  | emit
  | accept
  | opening
  | closing
  deriving DecidableEq, Repr

namespace Instruction

/-- The byte that stands for an instruction on a tape. -/
def byte : Instruction → UInt8
  | right => 62
  | left => 60
  | increment => 43
  | decrement => 45
  | emit => 46
  | accept => 44
  | opening => 91
  | closing => 93

/-- The instruction a byte stands for; filler stands for none. -/
def ofByte? (b : UInt8) : Option Instruction :=
  if b = 62 then some right
  else if b = 60 then some left
  else if b = 43 then some increment
  else if b = 45 then some decrement
  else if b = 46 then some emit
  else if b = 44 then some accept
  else if b = 91 then some opening
  else if b = 93 then some closing
  else none

/-- The instructions in the order in which a random choice numbers them. -/
def ofIndex : Fin 8 → Instruction
  | 0 => right
  | 1 => left
  | 2 => increment
  | 3 => decrement
  | 4 => emit
  | 5 => accept
  | 6 => opening
  | 7 => closing

@[simp] theorem ofByte?_byte (i : Instruction) : ofByte? i.byte = some i := by
  cases i <;> rfl

theorem byte_of_ofByte? {b : UInt8} {i : Instruction} (found : ofByte? b = some i) :
    i.byte = b := by
  revert found
  unfold ofByte?
  repeat' split
  all_goals intro found; cases found
  all_goals subst_vars; rfl

/-- A byte reads as an instruction exactly when it is that instruction's byte. -/
theorem ofByte?_eq_some_iff {b : UInt8} {i : Instruction} :
    ofByte? b = some i ↔ b = i.byte :=
  ⟨fun found => (byte_of_ofByte? found).symm, fun same => same ▸ ofByte?_byte i⟩

end Instruction

/-- A program: bytes, of which some are instructions. -/
abbrev Tape := List UInt8

/-- Whether a byte stands for an instruction. -/
def isInstruction (b : UInt8) : Bool :=
  (Instruction.ofByte? b).isSome

@[simp] theorem isInstruction_byte (i : Instruction) : isInstruction i.byte = true := by
  simp [isInstruction]

namespace Tape

/-- The tape without its filler. -/
def code (tape : Tape) : Tape :=
  tape.filter isInstruction

/-- How many instructions a tape carries. -/
def complexity (tape : Tape) : Nat :=
  tape.countP isInstruction

theorem length_code (tape : Tape) : (code tape).length = complexity tape := by
  simp [code, complexity, List.countP_eq_length_filter]

end Tape

end TapeSwarm
