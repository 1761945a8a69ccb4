import Mathlib.Logic.Equiv.Basic
import TapeSwarm.Proofs.Machine.Budget
import TapeSwarm.Proofs.Machine.Ring

/-!
# Symmetries

A symmetry changes the store of a machine and the bytes of its program in such a way that every byte
acts on the changed store as the byte that it was acted on the old one. If it also keeps brackets
apart from other bytes, and zero cells from other cells, then nothing that a machine does depends on
whether it was changed before or after: not one step, not a run within any budget, and not the
bracket table of a program.

There are three: turning the ring, reflecting the ring with `>` and `<` exchanged, and negating all
bytes modulo 256 with `+` and `-` exchanged.

Results:
1. `Symmetry.step_apply`, `Symmetry.run_apply`, `Symmetry.load_apply`: a symmetry commutes with
   steps, runs and loading.
2. `run_rotate_mirror`: the ring has no distinguished cell and no distinguished direction.
3. `run_negate`: `+` and `-` are mirror images of each other.
-/

namespace TapeSwarm

/-! ## Exchanging two instructions -/

namespace Instruction

/-- Exchanges the bytes of two instructions. -/
def exchange (i j : Instruction) : UInt8 → UInt8 :=
  Equiv.swap i.byte j.byte

theorem exchange_left (i j : Instruction) : exchange i j i.byte = j.byte :=
  Equiv.swap_apply_left _ _

theorem exchange_right (i j : Instruction) : exchange i j j.byte = i.byte :=
  Equiv.swap_apply_right _ _

theorem exchange_of_ne {i j : Instruction} {b : UInt8} (first : b ≠ i.byte)
    (second : b ≠ j.byte) : exchange i j b = b :=
  Equiv.swap_apply_of_ne_of_ne first second

/-- The bytes of other instructions stay what they are, and no byte becomes one of them. -/
theorem exchange_eq_iff {i j k : Instruction} (first : k.byte ≠ i.byte) (second : k.byte ≠ j.byte)
    (b : UInt8) : exchange i j b = k.byte ↔ b = k.byte := by
  unfold exchange
  rw [Equiv.swap_apply_eq_iff, Equiv.swap_apply_of_ne_of_ne first second]

end Instruction

/-! ## Symmetries -/

/-- A change of stores and bytes that no action, no jump and no bracket table notices. -/
structure Symmetry (size : Nat) where
  store : Store size → Store size
  byte : UInt8 → UInt8
  act : ∀ s b, (store s).act (byte b) = store (s.act b)
  zero : ∀ s, (store s).cell = 0 ↔ s.cell = 0
  opening : ∀ b, byte b = openByte ↔ b = openByte
  closing : ∀ b, byte b = closeByte ↔ b = closeByte

namespace Symmetry

variable {size : Nat} (σ : Symmetry size)

theorem isBracket_byte (b : UInt8) : isBracket (σ.byte b) = isBracket b := by
  simp only [isBracket, Instruction.ofByte?_eq_some_iff]
  rw [Bool.eq_iff_iff]
  simp [σ.opening b, σ.closing b]

theorem byte_open : σ.byte openByte = openByte :=
  (σ.opening openByte).mpr rfl

theorem byte_close : σ.byte closeByte = closeByte :=
  (σ.closing closeByte).mpr rfl

theorem scanFrom_map (i : Nat) (waiting : List Nat) (table : Brackets) (tape : Tape) :
    Brackets.scanFrom i waiting table (tape.map σ.byte) =
      Brackets.scanFrom i waiting table tape := by
  induction tape generalizing i waiting table with
  | nil => rfl
  | cons b rest ih =>
    rw [List.map_cons]
    rcases plain_or_bracket b with plain | rfl | rfl
    · rw [Brackets.scanFrom_plain plain, Brackets.scanFrom_plain ((σ.isBracket_byte b).trans plain),
        ih]
    · rw [byte_open, Brackets.scanFrom_open, Brackets.scanFrom_open, ih]
    · rw [byte_close]
      cases waiting with
      | nil => rw [Brackets.scanFrom_stray, Brackets.scanFrom_stray]
      | cons start waiting => rw [Brackets.scanFrom_close, Brackets.scanFrom_close, ih]

theorem ofTape_map (tape : Tape) : Brackets.ofTape (tape.map σ.byte) = Brackets.ofTape tape := by
  unfold Brackets.ofTape Brackets.scan
  rw [scanFrom_map]

/-- The machine with its store and its program changed. -/
def apply (m : Machine size) : Machine size :=
  { m.withStore (σ.store m.store) with program := m.program.map σ.byte }

theorem load_apply (m : Machine size) (tape : Tape) :
    (σ.apply m).load (tape.map σ.byte) = σ.apply (m.load tape) := by
  unfold Machine.load
  rw [ofTape_map]
  rfl

theorem isHalted_apply (m : Machine size) : (σ.apply m).isHalted = m.isHalted := by
  show decide ((m.program.map σ.byte).length ≤ m.codePointer) = _
  rw [List.length_map]
  rfl

theorem target_apply (m : Machine size) (b : UInt8) :
    (σ.apply m).target (σ.byte b) = m.target b := by
  have zero : (σ.apply m).cell = 0 ↔ m.cell = 0 := σ.zero m.store
  have length : (σ.apply m).program.length = m.program.length := List.length_map _
  rcases plain_or_bracket b with plain | rfl | rfl
  · rw [Machine.target_of_plain plain, Machine.target_of_plain ((σ.isBracket_byte b).trans plain)]
    rfl
  · simp only [byte_open, Machine.target, Instruction.ofByte?_byte, zero, length]
    rfl
  · simp only [byte_close, Machine.target, Instruction.ofByte?_byte, zero]
    rfl

theorem step_apply (m : Machine size) : (σ.apply m).step = (σ.apply m.step.1, m.step.2) := by
  rcases Machine.step_cases m with ⟨finished, stepped⟩ | ⟨b, found, stepped⟩
  · rw [stepped, Machine.step_of_halted ((σ.isHalted_apply m).trans finished)]
    rfl
  · have changed : (σ.apply m).program[(σ.apply m).codePointer]? = some (σ.byte b) := by
      show (m.program.map σ.byte)[m.codePointer]? = _
      rw [List.getElem?_map, found]
      rfl
    have acted : (σ.apply m).store.act (σ.byte b) = σ.store (m.store.act b) := σ.act m.store b
    have length : (σ.apply m).program.length = m.program.length := List.length_map _
    rw [stepped, Machine.step_of_byte changed, target_apply, acted, length]
    rfl

theorem runFrom_apply (ceiling : Int) (fuel taken : Nat) (m : Machine size) :
    Machine.runFrom ceiling fuel taken (σ.apply m) =
      ⟨σ.apply (Machine.runFrom ceiling fuel taken m).machine,
        (Machine.runFrom ceiling fuel taken m).overrun⟩ := by
  induction fuel generalizing taken m with
  | zero => rfl
  | succ fuel ih =>
    have count : (σ.apply m.step.1).operations = m.step.1.operations := rfl
    rw [Machine.runFrom, Machine.runFrom, isHalted_apply, step_apply]
    cases m.isHalted with
    | true => rfl
    | false =>
      simp only [Bool.false_eq_true, if_false, count]
      by_cases above : ceiling < m.step.1.operations
      · simp only [above, if_true]
      · simp only [above, if_false, ih]

/-- A symmetry may be applied before a run or after it. -/
theorem run_apply (m : Machine size) (budget : Budget) :
    (σ.apply m).run budget = ⟨σ.apply (m.run budget).machine, (m.run budget).overrun⟩ := by
  have start : { σ.apply m with operations := 0 } = σ.apply { m with operations := 0 } := rfl
  rw [Machine.run_eq, Machine.run_eq, start, runFrom_apply]
  rfl

end Symmetry

/-! ## Rearranging the ring -/

namespace Store

variable {size : Nat}

/-- Carries every cell to another position, and the pointer along. -/
def rearrange (π : Fin size ≃ Fin size) (s : Store size) : Store size :=
  { s with memory := Vector.ofFn fun i => s.memory.get (π.symm i), pointer := π s.pointer }

theorem memory_rearrange (s : Store size) (π : Fin size ≃ Fin size) (i : Fin size) :
    (s.rearrange π).memory.get (π i) = s.memory.get i := by
  show (Vector.ofFn fun i => s.memory.get (π.symm i))[(π i).val] = s.memory.get i
  rw [Vector.getElem_ofFn]
  exact congrArg s.memory.get (π.symm_apply_apply i)

theorem cell_rearrange (π : Fin size ≃ Fin size) (s : Store size) :
    (s.rearrange π).cell = s.cell :=
  s.memory_rearrange π s.pointer

theorem write_rearrange (π : Fin size ≃ Fin size) (s : Store size) (value : UInt8) :
    (s.rearrange π).write value = (s.write value).rearrange π := by
  refine Store.ext (Vector.ext fun i inside => ?_) rfl rfl rfl
  obtain ⟨j, there⟩ := π.surjective ⟨i, inside⟩
  obtain rfl : (π j).val = i := congrArg Fin.val there
  calc
    ((s.rearrange π).write value).memory.get (π j) =
        if π s.pointer = π j then value else (s.rearrange π).memory.get (π j) := memory_write _ _ _
    _ = if s.pointer = j then value else s.memory.get j := by
      simp only [memory_rearrange, π.apply_eq_iff_eq]
    _ = (s.write value).memory.get j := (memory_write _ _ _).symm
    _ = ((s.write value).rearrange π).memory.get (π j) := (memory_rearrange _ _ _).symm

/-- A byte that does not move the pointer acts on a rearranged ring as on the ring itself. -/
theorem act_rearrange (π : Fin size ≃ Fin size) (s : Store size) {b : UInt8}
    (notRight : b ≠ Instruction.right.byte) (notLeft : b ≠ Instruction.left.byte) :
    (s.rearrange π).act b = (s.act b).rearrange π := by
  cases found : Instruction.ofByte? b with
  | none => simp only [act, found]
  | some instruction =>
    cases instruction with
    | right => exact absurd (Instruction.ofByte?_eq_some_iff.mp found) notRight
    | left => exact absurd (Instruction.ofByte?_eq_some_iff.mp found) notLeft
    | increment | decrement => simp only [act, found, cell_rearrange, write_rearrange]
    | emit =>
      simp only [act, found, cell_rearrange]
      rfl
    | accept =>
      have queue : (s.rearrange π).input = s.input := rfl
      simp only [act, found, queue, write_rearrange]
      cases s.input with
      | nil => rfl
      | cons value rest => rfl
    | opening | closing => simp only [act, found]

/-- Negates every byte modulo 256. -/
def negate (s : Store size) : Store size where
  memory := s.memory.map (- ·)
  pointer := s.pointer
  output := s.output.map (- ·)
  input := s.input.map (- ·)

theorem cell_negate (s : Store size) : s.negate.cell = -s.cell :=
  Vector.getElem_map _ _

theorem write_negate (s : Store size) (value : UInt8) :
    s.negate.write (-value) = (s.write value).negate :=
  Store.ext (Vector.map_set (h := s.pointer.isLt)).symm rfl rfl rfl

/-- A byte acts on negated bytes as the byte that it is exchanged with does on the bytes. -/
theorem act_negate (s : Store size) (b : UInt8) :
    s.negate.act (Instruction.exchange .increment .decrement b) = (s.act b).negate := by
  by_cases up : b = Instruction.increment.byte
  · subst up
    have down : -s.cell - 1 = -(s.cell + 1) := UInt8.neg_add.symm
    rw [Instruction.exchange_left]
    simp only [act, Instruction.ofByte?_byte, cell_negate, down, write_negate]
  by_cases down : b = Instruction.decrement.byte
  · subst down
    have up : -s.cell + 1 = -(s.cell - 1) := by
      rw [UInt8.sub_eq_add_neg, UInt8.neg_add, UInt8.sub_eq_add_neg, UInt8.neg_neg]
    rw [Instruction.exchange_right]
    simp only [act, Instruction.ofByte?_byte, cell_negate, up, write_negate]
  rw [Instruction.exchange_of_ne up down]
  cases found : Instruction.ofByte? b with
  | none => simp only [act, found]
  | some instruction =>
    cases instruction with
    | increment => exact absurd (Instruction.ofByte?_eq_some_iff.mp found) up
    | decrement => exact absurd (Instruction.ofByte?_eq_some_iff.mp found) down
    | right | left =>
      simp only [act, found]
      rfl
    | emit =>
      simp only [act, found, cell_negate]
      exact Store.ext rfl rfl Array.map_push.symm rfl
    | accept =>
      have queue : s.negate.input = s.input.map (- ·) := rfl
      simp only [act, found, queue]
      cases s.input with
      | nil => rfl
      | cons value rest =>
        rw [List.map_cons]
        simp only [write_negate]
        rfl
    | opening | closing => simp only [act, found]

end Store

/-! ## The three symmetries -/

namespace Symmetry

variable {size : Nat}

/-- Turning the ring. -/
def rotation (size : Nat) (j : Int) : Symmetry size where
  store := Store.rearrange (Machine.turning j)
  byte := id
  act s b := by
    by_cases right : b = Instruction.right.byte
    · subst right
      exact congrArg (fun p => { s.rearrange (Machine.turning j) with pointer := p })
        (Machine.turn_clockwise j s.pointer).symm
    by_cases left : b = Instruction.left.byte
    · subst left
      exact congrArg (fun p => { s.rearrange (Machine.turning j) with pointer := p })
        (Machine.turn_counterclockwise j s.pointer).symm
    exact s.act_rearrange _ right left
  zero s := by rw [s.cell_rearrange]
  opening _ := Iff.rfl
  closing _ := Iff.rfl

/-- Reflecting the ring, with `>` and `<` exchanged. -/
def reflection (size : Nat) : Symmetry size where
  store := Store.rearrange Machine.reflecting
  byte := Instruction.exchange .right .left
  act s b := by
    by_cases right : b = Instruction.right.byte
    · subst right
      rw [Instruction.exchange_left]
      exact congrArg (fun p => { s.rearrange Machine.reflecting with pointer := p })
        (Machine.opposite_clockwise s.pointer).symm
    by_cases left : b = Instruction.left.byte
    · subst left
      rw [Instruction.exchange_right]
      exact congrArg (fun p => { s.rearrange Machine.reflecting with pointer := p })
        (Machine.opposite_counterclockwise s.pointer).symm
    rw [Instruction.exchange_of_ne right left]
    exact s.act_rearrange _ right left
  zero s := by rw [s.cell_rearrange]
  opening := Instruction.exchange_eq_iff (by decide) (by decide)
  closing := Instruction.exchange_eq_iff (by decide) (by decide)

/-- Negating all bytes, with `+` and `-` exchanged. -/
def negation (size : Nat) : Symmetry size where
  store := Store.negate
  byte := Instruction.exchange .increment .decrement
  act := Store.act_negate
  zero s := by
    rw [s.cell_negate]
    exact UInt8.neg_inj (b := 0)
  opening := Instruction.exchange_eq_iff (by decide) (by decide)
  closing := Instruction.exchange_eq_iff (by decide) (by decide)

end Symmetry

namespace Machine

variable {size : Nat}

/-- The machine with its ring turned by `j` cells, and the data pointer along with it. -/
def rotate (m : Machine size) (j : Int) : Machine size :=
  m.withStore (m.store.rearrange (turning j))

/-- The machine with its ring reflected, the data pointer along with it, and with `>` and `<`
exchanged in its program. -/
def mirror (m : Machine size) : Machine size :=
  { m.withStore (m.store.rearrange reflecting) with
    program := m.program.map (Instruction.exchange .right .left) }

/-- The machine with all its cells, its input and its output negated modulo 256, and with `+` and
`-` exchanged in its program. -/
def negate (m : Machine size) : Machine size :=
  { m.withStore m.store.negate with
    program := m.program.map (Instruction.exchange .increment .decrement) }

/-- One machine is as far as another one, with the cells and the data pointer carried to other
positions. -/
structure CarriedBy (π : Fin size → Fin size) (m m' : Machine size) : Prop where
  operations : m'.operations = m.operations
  output : m'.output = m.output
  input : m'.input = m.input
  codePointer : m'.codePointer = m.codePointer
  dataPointer : m'.dataPointer = π m.dataPointer
  memory : ∀ i, m'.memory.get (π i) = m.memory.get i

theorem run_rotate (m : Machine size) (j : Int) (budget : Budget) :
    (m.rotate j).run budget = ⟨(m.run budget).machine.rotate j, (m.run budget).overrun⟩ := by
  have same (m : Machine size) : (Symmetry.rotation size j).apply m = m.rotate j := by
    unfold Symmetry.apply Symmetry.rotation rotate
    rw [List.map_id]
    rfl
  rw [← same, ← same, Symmetry.run_apply]

theorem run_mirror (m : Machine size) (budget : Budget) :
    m.mirror.run budget = ⟨(m.run budget).machine.mirror, (m.run budget).overrun⟩ :=
  (Symmetry.reflection size).run_apply m budget

/-- The ring has no distinguished cell and no distinguished direction. A run on a turned ring does
what the run on the ring does, and leaves its cells and its data pointer turned by as much. A run
of the program with `>` and `<` exchanged, on a reflected ring, does the same and leaves them
reflected; the bracket table of such a program is that of the program. -/
theorem run_rotate_mirror (m : Machine size) (budget : Budget) :
    (∀ j : Int, CarriedBy (turn j) (m.run budget).machine ((m.rotate j).run budget).machine) ∧
    CarriedBy opposite (m.run budget).machine (m.mirror.run budget).machine ∧
    ∀ tape : Tape,
      m.mirror.load (tape.map (Instruction.exchange .right .left)) = (m.load tape).mirror := by
  refine ⟨fun j => ?_, ?_, (Symmetry.reflection size).load_apply m⟩
  · rw [run_rotate]
    exact ⟨rfl, rfl, rfl, rfl, rfl, Store.memory_rearrange _ (turning j)⟩
  · rw [run_mirror]
    exact ⟨rfl, rfl, rfl, rfl, rfl, Store.memory_rearrange _ reflecting⟩

/-- Increment and decrement are mirror images of each other. A run of the program with `+` and `-`
exchanged, on negated cells and input and after negated output, does what the run of the program
does, and leaves cells, input and output negated; the bracket table of such a program is that of
the program. -/
theorem run_negate (m : Machine size) (budget : Budget) :
    let plain := (m.run budget).machine
    let negated := (m.negate.run budget).machine
    negated.operations = plain.operations ∧ negated.codePointer = plain.codePointer ∧
    negated.dataPointer = plain.dataPointer ∧
    (∀ i : Fin size, negated.memory.get i = -plain.memory.get i) ∧
    negated.output = plain.output.map (- ·) ∧ negated.input = plain.input.map (- ·) ∧
    ∀ tape : Tape,
      m.negate.load (tape.map (Instruction.exchange .increment .decrement)) =
        (m.load tape).negate := by
  intro plain negated
  have same : negated = plain.negate :=
    congrArg Run.machine ((Symmetry.negation size).run_apply m budget)
  rw [same]
  exact ⟨rfl, rfl, rfl, fun i => Vector.getElem_map _ i.isLt, rfl, rfl,
    (Symmetry.negation size).load_apply m⟩

end Machine

end TapeSwarm
