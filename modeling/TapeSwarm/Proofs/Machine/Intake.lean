import TapeSwarm.Machine.Request
import TapeSwarm.Proofs.Machine.Budget

/-!
# The input queue

Bytes enter the queue of a machine when it is fed, and leave it one by one, each for the cell that
a `,` stores it in. Nothing else touches the queue: neither other instructions nor loading, a reset
or a source that is refused.

What is stored is read off the cells: `stored?` is the byte that stands under the data pointer after
a `,` that found something queued. `input_step_eq` says of one step that the queue before it is what
it stored followed by the queue after it; the same then holds of any number of steps
(`input_steps_eq`), of a request, with what it fed behind the queue (`Request.input_fed_eq`), and of
a history.

Result: `fed_eq_stored_append_input`.
-/

namespace TapeSwarm

namespace Store

variable {size : Nat} {s : Store size}

theorem act_accept_of_nil (empty : s.input = []) : s.act Instruction.accept.byte = s := by
  simp only [act, Instruction.ofByte?_byte, empty]

theorem act_accept_of_cons {value : UInt8} {rest : List UInt8} (queue : s.input = value :: rest) :
    s.act Instruction.accept.byte = { s.write value with input := rest } := by
  simp only [act, Instruction.ofByte?_byte, queue]

theorem input_act_of_ne {b : UInt8} (other : b ≠ Instruction.accept.byte) :
    (s.act b).input = s.input := by
  cases found : Instruction.ofByte? b with
  | none => simp only [act, found]
  | some instruction =>
    cases instruction with
    | accept => exact absurd (Instruction.ofByte?_eq_some_iff.mp found) other
    | right | left | increment | decrement | emit | opening | closing =>
      simp only [act, found, write]

end Store

namespace Machine

variable {size : Nat}

/-! ## One step -/

/-- Whether the next instruction is `,`. -/
def accepts (m : Machine size) : Bool :=
  m.program[m.codePointer]? = some Instruction.accept.byte

theorem accepts_iff {m : Machine size} :
    m.accepts = true ↔ m.program[m.codePointer]? = some Instruction.accept.byte := by
  simp [accepts]

/-- A `,` takes exactly the first byte that is queued, and stores it. -/
theorem step_accept_of_cons {m : Machine size} (accepts : m.accepts = true) {value : UInt8}
    {rest : List UInt8} (queue : m.input = value :: rest) :
    m.step.1.input = rest ∧
      m.step.1.memory = m.memory.set m.dataPointer value m.dataPointer.isLt ∧
      m.step.1.cell = value := by
  rw [step_of_byte (accepts_iff.mp accepts), Store.act_accept_of_cons (s := m.store) queue]
  exact ⟨rfl, rfl, Vector.getElem_set_self _⟩

/-- Where nothing is queued, a `,` changes neither queue nor cells. -/
theorem step_accept_of_nil {m : Machine size} (accepts : m.accepts = true) (empty : m.input = []) :
    m.step.1.input = [] ∧ m.step.1.memory = m.memory := by
  rw [step_of_byte (accepts_iff.mp accepts), Store.act_accept_of_nil (s := m.store) empty]
  exact ⟨empty, rfl⟩

/-- Steps that perform no `,` leave the queue as it is. -/
theorem input_step_of_not_accepts {m : Machine size} (other : m.accepts = false) :
    m.step.1.input = m.input := by
  rcases step_cases m with ⟨_, stepped⟩ | ⟨b, found, stepped⟩
  · rw [stepped]
  · have ne : b ≠ Instruction.accept.byte := by
      rintro rfl
      rw [accepts_iff.mpr found] at other
      contradiction
    rw [stepped]
    exact Store.input_act_of_ne (s := m.store) ne

/-- The byte that the next step stores from the queue: what is under the data pointer after a `,`
that finds something queued. -/
def stored? (m : Machine size) : Option UInt8 :=
  if m.accepts && !m.input.isEmpty then some m.step.1.cell else none

/-- The queue before a step is what the step stores, followed by the queue after it. -/
theorem input_step_eq (m : Machine size) : m.input = m.stored?.toList ++ m.step.1.input := by
  unfold stored?
  cases accepts : m.accepts with
  | false =>
    rw [input_step_of_not_accepts accepts]
    rfl
  | true =>
    cases queue : m.input with
    | nil =>
      rw [(step_accept_of_nil accepts queue).1]
      rfl
    | cons value rest =>
      obtain ⟨left, _, cell⟩ := step_accept_of_cons accepts queue
      rw [left, cell]
      rfl

/-! ## Many steps -/

/-- The bytes that `n` steps store from the queue, in order. -/
def stored : Machine size → Nat → List UInt8
  | _, 0 => []
  | m, n + 1 => m.stored?.toList ++ stored m.step.1 n

theorem input_steps_eq (m : Machine size) (n : Nat) :
    m.input = m.stored n ++ (m.steps n).input := by
  induction n generalizing m with
  | zero => rfl
  | succ n ih =>
    calc
      m.input = m.stored?.toList ++ m.step.1.input := m.input_step_eq
      _ = m.stored?.toList ++ (m.step.1.stored n ++ (m.step.1.steps n).input) := by rw [← ih]
      _ = m.stored (n + 1) ++ (m.steps (n + 1)).input := (List.append_assoc _ _ _).symm

/-- The operations that a run counts are the steps it consists of. -/
theorem input_run_eq (m : Machine size) (budget : Budget) :
    m.input = m.stored (m.run budget).machine.operations ++ (m.run budget).machine.input := by
  obtain ⟨k, _, _, left, _⟩ := m.run_cases budget
  rw [left]
  exact m.input_steps_eq k

/-! ## Requests -/

/-- The bytes that a request puts into the queue. -/
def Request.fed : Request → List UInt8
  | .feed source =>
    match source.read with
    | .error _ => []
    | .ok values => values
  | .reset | .load _ | .step | .run _ | .execute .. => []

/-- The bytes that a request stores from the queue, in order. -/
def storedBy (m : Machine size) : Request → List UInt8
  | .reset | .load _ | .feed _ => []
  | .step => m.stored 1
  | .run budget => m.stored (m.run budget).machine.operations
  | .execute source budget _ =>
    match source.read with
    | .error _ => []
    | .ok tape => (m.reset.load tape).stored (m.runClean tape budget).operations

/-- A request feeds behind the queue and stores from its front. -/
theorem input_fed_eq (m : Machine size) (request : Request) :
    m.input ++ request.fed = m.storedBy request ++ (m.respond request).machine.input := by
  cases request with
  | reset => exact List.append_nil _
  | load source =>
    simp only [Machine.respond, Request.fed, storedBy]
    cases source.read with
    | error fault => exact List.append_nil _
    | ok tape => exact List.append_nil _
  | feed source =>
    simp only [Machine.respond, Request.fed, storedBy]
    cases source.read with
    | error fault => exact List.append_nil _
    | ok values => rfl
  | step =>
    rw [Request.fed, List.append_nil]
    exact m.input_steps_eq 1
  | run budget =>
    rw [Request.fed, List.append_nil]
    exact m.input_run_eq budget
  | execute source budget patternSize =>
    rw [Request.fed, List.append_nil]
    simp only [Machine.respond, execute, storedBy]
    cases source.read with
    | error fault => rfl
    | ok tape => exact (m.reset.load tape).input_run_eq budget

/-- The bytes that a history feeds, in order. -/
def fedOf (history : List Request) : List UInt8 :=
  history.flatMap Request.fed

/-- The bytes that a history stores from the queue, in order. -/
def storedOf (m : Machine size) : List Request → List UInt8
  | [] => []
  | request :: rest => m.storedBy request ++ (m.respond request).machine.storedOf rest

theorem input_fedOf_eq (m : Machine size) (history : List Request) :
    m.input ++ fedOf history = m.storedOf history ++ (m.after history).input := by
  induction history generalizing m with
  | nil => exact List.append_nil _
  | cons request rest ih =>
    have later := ih (m.respond request).machine
    calc
      m.input ++ fedOf (request :: rest) = m.input ++ request.fed ++ fedOf rest :=
        (List.append_assoc _ _ _).symm
      _ = m.storedBy request ++ ((m.respond request).machine.input ++ fedOf rest) := by
        rw [input_fed_eq, List.append_assoc]
      _ = m.storedOf (request :: rest) ++ (m.after (request :: rest)).input := by
        rw [later]
        exact (List.append_assoc _ _ _).symm

/-- Whatever was fed to a machine since it was made is, in this order, what `,` stored in cells
followed by what is still queued. A `,` takes exactly the first byte from a queue and stores it, and
does nothing to cells and queue where nothing is queued; a step that performs no `,` leaves the
queue. Of requests, those that perform nothing take nothing: a request leaves the queue with what it
fed behind and without what its steps stored. -/
theorem fed_eq_stored_append_input (positive : 0 < size) (history : List Request) :
    let start := blank size positive
    fedOf history = start.storedOf history ++ (start.after history).input ∧
    (∀ m : Machine size, m.accepts = true →
      (∀ value rest, m.input = value :: rest → m.step.1.input = rest ∧
        m.step.1.memory = m.memory.set m.dataPointer value m.dataPointer.isLt ∧
        m.stored? = some value) ∧
      (m.input = [] → m.step.1.input = [] ∧ m.step.1.memory = m.memory ∧ m.stored? = none)) ∧
    (∀ m : Machine size, m.accepts = false → m.step.1.input = m.input ∧ m.stored? = none) ∧
    ∀ (m : Machine size) (request : Request),
      m.input ++ request.fed = m.storedBy request ++ (m.respond request).machine.input := by
  intro start
  refine ⟨start.input_fedOf_eq history,
    fun m accepts => ⟨fun value rest queue => ?_, fun empty => ?_⟩,
    fun m other => ⟨input_step_of_not_accepts other, ?_⟩, input_fed_eq⟩
  · obtain ⟨left, memory, cell⟩ := step_accept_of_cons accepts queue
    refine ⟨left, memory, ?_⟩
    rw [stored?, accepts, queue, cell]
    rfl
  · obtain ⟨left, memory⟩ := step_accept_of_nil accepts empty
    refine ⟨left, memory, ?_⟩
    rw [stored?, accepts, empty]
    rfl
  · rw [stored?, other]
    rfl

/-- A machine that reads in a loop is cut off, refuses food and a tape, gets another tape and reads
on. -/
def interrupted : List Request :=
  [.feed (.bytes [3, 1, 4]), .load (.text [',', '[', '>', ',', ']']), .run (.ofInt 4),
    .feed (.scalar .integer), .execute (.scalar .nothing) (.ofInt 9) 1, .feed (.bytes [5, 9]),
    .execute (.text ['>', ',', ',']) (.ofInt 2) 1, .step]

theorem fed_eq_stored_append_input_interrupted :
    0 < 2 ∧ fedOf interrupted = [3, 1, 4, 5, 9] ∧
    (blank 2 Nat.two_pos).storedOf interrupted = [3, 1, 4, 5] ∧
    ((blank 2 Nat.two_pos).after interrupted).input = [9] ∧
    fedOf interrupted = (blank 2 Nat.two_pos).storedOf interrupted ++
      ((blank 2 Nat.two_pos).after interrupted).input :=
  ⟨Nat.two_pos, by decide, by decide, by decide,
    (fed_eq_stored_append_input Nat.two_pos interrupted).1⟩

end Machine

end TapeSwarm
