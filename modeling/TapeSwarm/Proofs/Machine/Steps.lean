import TapeSwarm.Machine.Run
import TapeSwarm.Proofs.Brackets.Scan

/-!
# Steps

What one step of a machine does, said once, and what any number of steps does.

A machine is a store (cells, data pointer, output, input), which instructions act on, and a place in
a program. `step_of_byte` is the whole effect of a step within the program, `step_of_halted` that of
a step beyond its end; later results use these two and do not open `step` again.

Results:
1. `steps_add`: steps compose.
2. `program_steps`, `brackets_steps`: program and bracket table stay.
3. `performed_add`, `operations_steps`: the operations of a machine count the instructions that were
   performed.
4. `isHalted_of_le`, `steps_of_le`: beyond the end of the program a machine stays as it is.
-/

namespace TapeSwarm

/-- What the instructions of a program act on. -/
@[ext]
structure Store (size : Nat) where
  memory : Vector UInt8 size
  pointer : Fin size
  output : Array UInt8
  input : List UInt8

namespace Store

variable {size : Nat}

/-- The cell under the pointer. -/
def cell (s : Store size) : UInt8 :=
  s.memory[s.pointer]

/-- Writes the cell under the pointer. -/
def write (s : Store size) (value : UInt8) : Store size :=
  { s with memory := s.memory.set s.pointer value }

/-- The action of a byte. Brackets and filler leave a store as it is, and so does reading where
there is no input. -/
def act (s : Store size) (b : UInt8) : Store size :=
  match Instruction.ofByte? b with
  | some .right => { s with pointer := Machine.clockwise s.pointer }
  | some .left => { s with pointer := Machine.counterclockwise s.pointer }
  | some .increment => s.write (s.cell + 1)
  | some .decrement => s.write (s.cell - 1)
  | some .emit => { s with output := s.output.push s.cell }
  | some .accept =>
    match s.input with
    | [] => s
    | value :: rest => { s.write value with input := rest }
  | some .opening | some .closing | none => s

theorem memory_write (s : Store size) (value : UInt8) (i : Fin size) :
    (s.write value).memory.get i = if s.pointer = i then value else s.memory.get i := by
  show (s.memory.set s.pointer value)[i.val] = if s.pointer = i then value else s.memory[i.val]
  rw [Vector.getElem_set]
  simp only [Fin.ext_iff]

/-- What an action can do to a store. -/
inductive Effect (s : Store size) : Store size → Prop
  | nothing : Effect s s
  | right : Effect s { s with pointer := Machine.clockwise s.pointer }
  | left : Effect s { s with pointer := Machine.counterclockwise s.pointer }
  | write (value : UInt8) : Effect s (s.write value)
  | emit : Effect s { s with output := s.output.push s.cell }
  | accept {value : UInt8} {rest : List UInt8} :
      s.input = value :: rest → Effect s { s.write value with input := rest }

theorem effect_act (s : Store size) (b : UInt8) : s.Effect (s.act b) := by
  cases found : Instruction.ofByte? b with
  | none => simpa only [act, found] using .nothing
  | some instruction =>
    cases instruction with
    | right => simpa only [act, found] using .right
    | left => simpa only [act, found] using .left
    | increment | decrement => simpa only [act, found] using .write _
    | emit => simpa only [act, found] using .emit
    | accept =>
      simp only [act, found]
      split
      · exact .nothing
      · next value rest queue => exact .accept queue
    | opening | closing => simpa only [act, found] using .nothing

/-- The output only grows. -/
theorem Effect.output_extends {s t : Store size} (effect : s.Effect t) :
    s.output.toList <+: t.output.toList := by
  cases effect with
  | emit =>
    rw [Array.toList_push]
    exact List.prefix_append _ _
  | nothing | right | left | write | accept => exact List.prefix_refl _

/-- The input is only taken from. -/
theorem Effect.input_suffix {s t : Store size} (effect : s.Effect t) : t.input <:+ s.input := by
  cases effect with
  | accept queue =>
    rw [queue]
    exact List.suffix_cons _ _
  | nothing | right | left | write | emit => exact List.suffix_refl _

end Store

namespace Machine

variable {size : Nat}

/-! ## One step -/

/-- The store of a machine. -/
def store (m : Machine size) : Store size :=
  ⟨m.memory, m.dataPointer, m.output, m.input⟩

/-- The machine with another store. -/
def withStore (m : Machine size) (s : Store size) : Machine size :=
  { m with memory := s.memory, dataPointer := s.pointer, output := s.output, input := s.input }

/-- The position that a byte, performed by a machine, moves on from: the partner of a bracket that
jumps, or where the machine is. -/
def target (m : Machine size) (b : UInt8) : Nat :=
  match Instruction.ofByte? b with
  | some .opening =>
    if m.cell = 0 then (m.brackets.partner? m.codePointer).getD m.program.length
    else m.codePointer
  | some .closing =>
    if m.cell = 0 then m.codePointer else (m.brackets.partner? m.codePointer).getD 0
  | _ => m.codePointer

theorem isHalted_iff {m : Machine size} :
    m.isHalted = true ↔ m.program.length ≤ m.codePointer := by
  simp [isHalted]

theorem not_isHalted_iff {m : Machine size} :
    m.isHalted = false ↔ m.codePointer < m.program.length := by
  simp [isHalted]

theorem getElem?_of_not_isHalted {m : Machine size} (going : m.isHalted = false) :
    ∃ b, m.program[m.codePointer]? = some b :=
  ⟨_, List.getElem?_eq_getElem (not_isHalted_iff.mp going)⟩

theorem lt_length_of_getElem? {m : Machine size} {b : UInt8}
    (found : m.program[m.codePointer]? = some b) : m.codePointer < m.program.length :=
  (List.getElem?_eq_some_iff.mp found).1

theorem target_of_plain {b : UInt8} (plain : isBracket b = false) (m : Machine size) :
    m.target b = m.codePointer := by
  simp only [isBracket, Bool.or_eq_false_iff, decide_eq_false_iff_not] at plain
  obtain ⟨notOpen, notClose⟩ := plain
  unfold target
  split
  · next opening => exact absurd opening notOpen
  · next closing => exact absurd closing notClose
  · rfl

/-- Performing a byte acts on the store and goes to the byte's target. -/
theorem performIn_eq (m : Machine size) (b : UInt8) :
    performIn m.code m (Instruction.ofByte? b) =
      { m.withStore (m.store.act b) with codePointer := m.target b } := by
  cases found : Instruction.ofByte? b with
  | none => simp only [performIn, target, Store.act, withStore, store, found]
  | some instruction =>
    cases instruction with
    | right | left => simp only [performIn, target, Store.act, withStore, store, found]
    | increment | decrement | emit =>
      simp only [performIn, target, Store.act, withStore, store, found]
      rfl
    | accept =>
      -- an empty queue leaves the cell, so the two sides agree only after a look into the queue
      simp only [performIn, target, Store.act, withStore, store, found]
      cases queue : m.input with
      | nil => simp only [← queue]
      | cons value rest => rfl
    | opening =>
      by_cases zero : m.cell = 0
      · simp only [performIn, target, Store.act, withStore, store, found, zero, if_true]
        rfl
      · simp only [performIn, target, Store.act, withStore, store, found, zero, if_false]
    | closing =>
      by_cases zero : m.cell = 0
      · simp only [performIn, target, Store.act, withStore, store, found, zero, if_true]
      · simp only [performIn, target, Store.act, withStore, store, found, zero, if_false]
        rfl

/-- A step within the program. -/
theorem step_of_byte {m : Machine size} {b : UInt8}
    (found : m.program[m.codePointer]? = some b) :
    m.step = ({ m.withStore (m.store.act b) with
      codePointer := m.target b + 1
      operations := m.operations + 1
      status := if m.program.length ≤ m.target b + 1 then .halted else .running }, true) := by
  have looked : m.code.byte? m.codePointer = some b := found
  simp only [step, stepIn, looked, performIn_eq, advanceIn]
  rfl

/-- A step beyond the end of the program. -/
theorem step_of_halted {m : Machine size} (finished : m.isHalted = true) :
    m.step = ({ m with status := .halted }, false) := by
  have nothing : m.code.byte? m.codePointer = none :=
    List.getElem?_eq_none (isHalted_iff.mp finished)
  simp only [step, stepIn, nothing]

/-- What a step can do. -/
theorem step_cases (m : Machine size) :
    (m.isHalted = true ∧ m.step = ({ m with status := .halted }, false)) ∨
    ∃ b, m.program[m.codePointer]? = some b ∧
      m.step = ({ m.withStore (m.store.act b) with
        codePointer := m.target b + 1
        operations := m.operations + 1
        status := if m.program.length ≤ m.target b + 1 then .halted else .running }, true) := by
  cases finished : m.isHalted with
  | true => exact .inl ⟨rfl, step_of_halted finished⟩
  | false =>
    obtain ⟨b, found⟩ := getElem?_of_not_isHalted finished
    exact .inr ⟨b, found, step_of_byte found⟩

/-- A step answers whether there was an instruction to perform. -/
theorem step_snd (m : Machine size) : m.step.2 = !m.isHalted := by
  rcases step_cases m with ⟨finished, stepped⟩ | ⟨b, found, stepped⟩
  · simp [stepped, finished]
  · simp [stepped, not_isHalted_iff.mpr (lt_length_of_getElem? found)]

theorem program_step (m : Machine size) : m.step.1.program = m.program := by
  rcases step_cases m with ⟨_, stepped⟩ | ⟨b, _, stepped⟩
  · rw [stepped]
  · rw [stepped]
    rfl

theorem brackets_step (m : Machine size) : m.step.1.brackets = m.brackets := by
  rcases step_cases m with ⟨_, stepped⟩ | ⟨b, _, stepped⟩
  · rw [stepped]
  · rw [stepped]
    rfl

/-- The operations of a machine count the instructions it performs. -/
theorem operations_step (m : Machine size) :
    m.step.1.operations = m.operations + if m.isHalted then 0 else 1 := by
  rcases step_cases m with ⟨finished, stepped⟩ | ⟨b, found, stepped⟩
  · simp [stepped, finished]
  · simp [stepped, not_isHalted_iff.mpr (lt_length_of_getElem? found)]

/-- A step that performs an instruction never leaves the machine at the start. -/
theorem codePointer_step_pos {m : Machine size} (going : m.isHalted = false) :
    1 ≤ m.step.1.codePointer := by
  obtain ⟨b, found⟩ := getElem?_of_not_isHalted going
  rw [step_of_byte found]
  exact Nat.le_add_left 1 _

/-! ## Many steps -/

/-- The machine after `n` steps. -/
def steps : Machine size → Nat → Machine size
  | m, 0 => m
  | m, n + 1 => steps m.step.1 n

/-- How many instructions are performed in `n` steps. -/
def performed : Machine size → Nat → Nat
  | _, 0 => 0
  | m, n + 1 => (if m.isHalted then 0 else 1) + performed m.step.1 n

theorem steps_add (m : Machine size) (i j : Nat) : m.steps (i + j) = (m.steps i).steps j := by
  induction i generalizing m with
  | zero => rw [Nat.zero_add, steps]
  | succ i ih => rw [Nat.succ_add, steps, steps, ih]

theorem steps_succ (m : Machine size) (n : Nat) : m.steps (n + 1) = (m.steps n).step.1 :=
  steps_add m n 1

theorem performed_add (m : Machine size) (i j : Nat) :
    m.performed (i + j) = m.performed i + (m.steps i).performed j := by
  induction i generalizing m with
  | zero => rw [Nat.zero_add, performed, steps, Nat.zero_add]
  | succ i ih => rw [Nat.succ_add, performed, performed, steps, ih, Nat.add_assoc]

theorem performed_le (m : Machine size) (n : Nat) : m.performed n ≤ n := by
  induction n generalizing m with
  | zero => exact Nat.le_refl 0
  | succ n ih =>
    have rest := ih m.step.1
    rw [performed]
    split <;> omega

theorem program_steps (m : Machine size) (n : Nat) : (m.steps n).program = m.program := by
  induction n generalizing m with
  | zero => rfl
  | succ n ih => rw [steps, ih, program_step]

theorem brackets_steps (m : Machine size) (n : Nat) : (m.steps n).brackets = m.brackets := by
  induction n generalizing m with
  | zero => rfl
  | succ n ih => rw [steps, ih, brackets_step]

theorem operations_steps (m : Machine size) (n : Nat) :
    (m.steps n).operations = m.operations + m.performed n := by
  induction n generalizing m with
  | zero => rfl
  | succ n ih => rw [steps, performed, ih, operations_step, Nat.add_assoc]

/-- Beyond the end of the program steps leave nothing but the status. -/
theorem steps_of_isHalted {m : Machine size} (finished : m.isHalted = true) (n : Nat) :
    m.steps (n + 1) = { m with status := .halted } := by
  induction n with
  | zero => rw [steps, steps, step_of_halted finished]
  | succ n ih =>
    have still : isHalted { m with status := .halted } = true := finished
    rw [steps_succ, ih, step_of_halted still]

/-- A machine that is beyond the end of its program stays there. -/
theorem isHalted_steps {m : Machine size} (finished : m.isHalted = true) (n : Nat) :
    (m.steps n).isHalted = true := by
  cases n with
  | zero => exact finished
  | succ n =>
    rw [steps_of_isHalted finished]
    exact finished

theorem isHalted_of_le {m : Machine size} {i j : Nat} (le : i ≤ j)
    (finished : (m.steps i).isHalted = true) : (m.steps j).isHalted = true := by
  obtain ⟨d, rfl⟩ := Nat.exists_eq_add_of_le le
  rw [steps_add]
  exact isHalted_steps finished d

/-- Once a machine is beyond the end of its program, more steps leave nothing but the status. -/
theorem steps_of_le {m : Machine size} {k n : Nat} (late : k ≤ n)
    (finished : (m.steps k).isHalted = true) :
    ∃ status, m.steps n = { m.steps k with status } := by
  obtain ⟨more, rfl⟩ := Nat.exists_eq_add_of_le late
  rw [steps_add]
  cases more with
  | zero => exact ⟨_, rfl⟩
  | succ more => exact ⟨.halted, steps_of_isHalted finished more⟩

theorem performed_of_isHalted {m : Machine size} (finished : m.isHalted = true) (n : Nat) :
    m.performed n = 0 := by
  induction n generalizing m with
  | zero => rfl
  | succ n ih =>
    have still : m.step.1.isHalted = true := isHalted_steps finished 1
    rw [performed, ih still, finished]
    rfl

theorem performed_eq_of_le {m : Machine size} {k n : Nat} (late : k ≤ n)
    (finished : (m.steps k).isHalted = true) : m.performed n = m.performed k := by
  obtain ⟨more, rfl⟩ := Nat.exists_eq_add_of_le late
  rw [performed_add, performed_of_isHalted finished, Nat.add_zero]

/-- As long as a machine is within its program, every step performs an instruction. -/
theorem performed_eq_self_iff {m : Machine size} {n : Nat} :
    m.performed n = n ↔ ∀ i < n, (m.steps i).isHalted = false := by
  induction n generalizing m with
  | zero => simp [performed]
  | succ n ih =>
    have few := performed_le m.step.1 n
    rw [performed]
    constructor
    · intro all i below
      have going : m.isHalted = false := by
        cases finished : m.isHalted with
        | false => rfl
        | true =>
          rw [finished, if_pos rfl] at all
          omega
      rw [going] at all
      cases i with
      | zero => exact going
      | succ i =>
        have rest : m.step.1.performed n = n := by
          simp only [Bool.false_eq_true, if_false] at all
          omega
        exact ih.mp rest i (by omega)
    · intro all
      have going : m.isHalted = false := all 0 (by omega)
      have rest : m.step.1.performed n = n := ih.mpr fun i below => all (i + 1) (by omega)
      rw [going, rest]
      exact Nat.add_comm 1 n

/-- Steps that do not all perform an instruction end beyond the program. -/
theorem isHalted_of_performed_lt {m : Machine size} {n : Nat} (few : m.performed n < n) :
    (m.steps n).isHalted = true := by
  cases finished : (m.steps n).isHalted with
  | true => rfl
  | false =>
    -- had any earlier step met the end, so would this one
    have all : m.performed n = n := performed_eq_self_iff.mpr fun i below => by
      cases earlier : (m.steps i).isHalted with
      | false => rfl
      | true => exact absurd (isHalted_of_le (Nat.le_of_lt below) earlier) (by simp [finished])
    omega

end Machine

end TapeSwarm
