import TapeSwarm.Proofs.Machine.Budget
import TapeSwarm.Proofs.Machine.Ring

/-!
# Locality

A run of `n` steps neither writes nor reads cells at a distance of `n` or more from where its data
pointer starts. Each step moves the pointer by at most one and touches no cell but the one under it,
so that after `k` steps the pointer is within `k` of its start, and the next step touches a cell
within `k`. The cells that a run can touch are thus those at distances less than `n`, the one at
distance `n` not included: the last step may lead there, but nothing happens there any more.

That cells are not written is said of one run (`memory_steps_far`), that they are not read of two
runs on rings that differ there (`Alike.steps`).

Result: `run_local`.
-/

namespace TapeSwarm

namespace Store

variable {size : Nat}

/-- An action moves the pointer by at most one. -/
theorem Effect.distance_le {s t : Store size} (effect : s.Effect t) :
    Machine.distance s.pointer t.pointer ≤ 1 := by
  cases effect with
  | right => exact Machine.distance_clockwise_le s.pointer
  | left => exact Machine.distance_counterclockwise_le s.pointer
  | nothing | write | emit | accept =>
    exact (Machine.distance_self s.pointer).trans_le (Nat.zero_le 1)

/-- An action writes no cell but the one under the pointer. -/
theorem Effect.memory_of_ne {s t : Store size} (effect : s.Effect t) {i : Fin size}
    (other : s.pointer ≠ i) : t.memory.get i = s.memory.get i := by
  cases effect with
  | write value => rw [memory_write, if_neg other]
  | accept =>
    show (s.write _).memory.get i = _
    rw [memory_write, if_neg other]
  | nothing | right | left | emit => rfl

/-! ## Two stores -/

/-- Two stores that agree on the cells less than `reach` away from `home`, in pointer and input, and
in what they have put out after `first` and after `second`. -/
structure Alike (home : Fin size) (reach : Nat) (first second : Array UInt8) (s t : Store size) :
    Prop where
  cells : ∀ i, Machine.distance home i < reach → s.memory.get i = t.memory.get i
  pointer : s.pointer = t.pointer
  output : ∃ grown, s.output = first ++ grown ∧ t.output = second ++ grown
  input : s.input = t.input

variable {home : Fin size} {reach : Nat} {first second : Array UInt8} {s t : Store size}

theorem Alike.cell (alike : Alike home reach first second s t)
    (near : Machine.distance home s.pointer < reach) : s.cell = t.cell := by
  show s.memory.get s.pointer = t.memory.get t.pointer
  rw [alike.cells s.pointer near, alike.pointer]

theorem Alike.write (alike : Alike home reach first second s t) (value : UInt8) :
    Alike home reach first second (s.write value) (t.write value) where
  cells := fun i near => by
    rw [memory_write, memory_write, alike.cells i near, alike.pointer]
  pointer := alike.pointer
  output := alike.output
  input := alike.input

/-- Where the pointer is near, a byte does the same to both. -/
theorem Alike.act (alike : Alike home reach first second s t)
    (near : Machine.distance home s.pointer < reach) (b : UInt8) :
    Alike home reach first second (s.act b) (t.act b) := by
  have same := alike.cell near
  cases found : Instruction.ofByte? b with
  | none => simpa only [Store.act, found] using alike
  | some instruction =>
    cases instruction with
    | right =>
      simp only [Store.act, found]
      exact ⟨alike.cells, congrArg Machine.clockwise alike.pointer, alike.output, alike.input⟩
    | left =>
      simp only [Store.act, found]
      exact ⟨alike.cells, congrArg Machine.counterclockwise alike.pointer, alike.output,
        alike.input⟩
    | increment => simpa only [Store.act, found, same] using alike.write _
    | decrement => simpa only [Store.act, found, same] using alike.write _
    | emit =>
      obtain ⟨grown, left, right⟩ := alike.output
      simp only [Store.act, found, same, left, right]
      exact ⟨alike.cells, alike.pointer,
        ⟨grown.push t.cell, (Array.append_push ..).symm, (Array.append_push ..).symm⟩, alike.input⟩
    | accept =>
      simp only [Store.act, found, alike.input]
      cases queue : t.input with
      | nil => exact alike
      | cons value rest =>
        have written := alike.write value
        exact ⟨written.cells, written.pointer, written.output, rfl⟩
    | opening | closing => simpa only [Store.act, found] using alike

end Store

namespace Machine

variable {size : Nat}

/-! ## One run -/

theorem distance_step_le (m : Machine size) : distance m.dataPointer m.step.1.dataPointer ≤ 1 := by
  rcases step_cases m with ⟨_, stepped⟩ | ⟨b, _, stepped⟩
  · rw [stepped, distance_self]
    exact Nat.zero_le 1
  · rw [stepped]
    exact (m.store.effect_act b).distance_le

theorem memory_step_of_ne (m : Machine size) {i : Fin size} (other : m.dataPointer ≠ i) :
    m.step.1.memory.get i = m.memory.get i := by
  rcases step_cases m with ⟨_, stepped⟩ | ⟨b, _, stepped⟩
  · rw [stepped]
  · rw [stepped]
    exact (m.store.effect_act b).memory_of_ne other

/-- Cells are not written in fewer steps than it takes to pass them. -/
theorem memory_steps_far (m : Machine size) {n : Nat} {i : Fin size}
    (far : n ≤ distance m.dataPointer i) : (m.steps n).memory.get i = m.memory.get i := by
  induction n generalizing m with
  | zero => rfl
  | succ n ih =>
    have short := m.distance_step_le
    have way := distance_triangle m.dataPointer m.step.1.dataPointer i
    have other : m.dataPointer ≠ i := by
      rintro rfl
      rw [distance_self] at far
      omega
    rw [steps, ih m.step.1 (by omega), m.memory_step_of_ne other]

/-! ## Two runs -/

/-- Two machines at the same place of the same program, with stores that are alike. -/
structure Alike (home : Fin size) (reach : Nat) (first second : Array UInt8)
    (m m' : Machine size) : Prop where
  program : m.program = m'.program
  brackets : m.brackets = m'.brackets
  codePointer : m.codePointer = m'.codePointer
  store : m.store.Alike home reach first second m'.store

variable {home : Fin size} {reach : Nat} {first second : Array UInt8} {m m' : Machine size}

theorem Alike.isHalted (alike : Alike home reach first second m m') :
    m.isHalted = m'.isHalted := by
  unfold Machine.isHalted
  rw [alike.program, alike.codePointer]

/-- Where the data pointer is near, both machines make the same step. -/
theorem Alike.step (alike : Alike home reach first second m m')
    (near : distance home m.dataPointer < reach) :
    Alike home reach first second m.step.1 m'.step.1 := by
  have halted := alike.isHalted
  obtain ⟨program, brackets, place, stores⟩ := alike
  rcases step_cases m with ⟨finished, stepped⟩ | ⟨b, found, stepped⟩
  · rw [stepped, step_of_halted (halted.symm.trans finished)]
    exact ⟨program, brackets, place, stores⟩
  · have same : m.cell = m'.cell := stores.cell near
    have target : m.target b = m'.target b := by
      unfold Machine.target
      rw [same, brackets, place, program]
    have found' : m'.program[m'.codePointer]? = some b := by rw [← program, ← place, found]
    rw [stepped, step_of_byte found']
    exact ⟨program, brackets, congrArg (· + 1) target, stores.act near b⟩

/-- So they do for as many steps as the data pointer needs to get out of reach. -/
theorem Alike.steps (alike : Alike home reach first second m m') {n : Nat}
    (near : distance home m.dataPointer + n ≤ reach) :
    Alike home reach first second (m.steps n) (m'.steps n) ∧ m.performed n = m'.performed n := by
  induction n generalizing m m' with
  | zero => exact ⟨alike, rfl⟩
  | succ n ih =>
    have short := m.distance_step_le
    have way := distance_triangle home m.dataPointer m.step.1.dataPointer
    obtain ⟨after, count⟩ := ih (alike.step (by omega)) (by omega)
    refine ⟨after, ?_⟩
    rw [performed, performed, alike.isHalted, count]

/-- Two machines with the same program, bracket table, pointers and input whose rings agree on the
cells less than `reach` away from the data pointer. -/
structure AgreeWithin (reach : Nat) (m m' : Machine size) : Prop where
  program : m.program = m'.program
  brackets : m.brackets = m'.brackets
  codePointer : m.codePointer = m'.codePointer
  dataPointer : m.dataPointer = m'.dataPointer
  input : m.input = m'.input
  cells : ∀ i, distance m.dataPointer i < reach → m.memory.get i = m'.memory.get i

/-- On two machines that agree within `n`, a run of `n` steps leaves the cells at a distance of `n`
and more as they are. It counts as many operations on both, puts out the same, and leaves the same
input, the same pointers and the same nearer cells. -/
theorem run_local {n : Nat} {m m' : Machine size} (agree : AgreeWithin n m m') :
    let one := (m.run (.ofInt n)).machine
    let other := (m'.run (.ofInt n)).machine
    (∀ i, n ≤ distance m.dataPointer i →
      one.memory.get i = m.memory.get i ∧ other.memory.get i = m'.memory.get i) ∧
    (∀ i, distance m.dataPointer i < n → one.memory.get i = other.memory.get i) ∧
    one.operations = other.operations ∧
    (∃ grown, one.output = m.output ++ grown ∧ other.output = m'.output ++ grown) ∧
    one.input = other.input ∧ one.codePointer = other.codePointer ∧
    one.dataPointer = other.dataPointer := by
  intro one other
  have start : Alike m.dataPointer n m.output m'.output m m' :=
    ⟨agree.program, agree.brackets, agree.codePointer,
      ⟨agree.cells, agree.dataPointer, ⟨#[], Array.append_empty.symm, Array.append_empty.symm⟩,
        agree.input⟩⟩
  have near : distance m.dataPointer m.dataPointer + n ≤ n := by
    rw [distance_self, Nat.zero_add]
  obtain ⟨alike, count⟩ := start.steps near
  have left : one = (m.steps n).relabel (m.performed n) .halted := by
    simp only [one, run_ofInt, Int.toNat_natCast]
  have right : other = (m'.steps n).relabel (m'.performed n) .halted := by
    simp only [other, run_ofInt, Int.toNat_natCast]
  rw [left, right]
  refine ⟨fun i far => ⟨m.memory_steps_far far, m'.memory_steps_far ?_⟩, alike.store.cells, count,
    alike.store.output, alike.store.input, alike.codePointer, alike.store.pointer⟩
  rw [← agree.dataPointer]
  exact far

/-- A machine next to the seam of its ring that is about to write a cell behind it, with a byte in
the cells farthest from it. -/
def atSeam (far : UInt8) : Machine 9 :=
  { blank 9 (by decide) with
    memory := #v[0, 0, 0, 0, 0, far, far, 8, 0]
    dataPointer := 1
    output := #[far]
    program := [60, 60, 60, 43]
    brackets := [] }

theorem run_local_atSeam :
    AgreeWithin 4 (atSeam 6) (atSeam 7) ∧
    ((atSeam 6).run (.ofInt 4)).machine.memory = #v[0, 0, 0, 0, 0, 6, 6, 9, 0] ∧
    ((atSeam 7).run (.ofInt 4)).machine.memory.get 7 = 9 ∧
    ((atSeam 7).run (.ofInt 4)).machine.memory.get 5 = 7 := by
  have agree : AgreeWithin 4 (atSeam 6) (atSeam 7) := ⟨rfl, rfl, rfl, rfl, rfl, by decide⟩
  have left : ((atSeam 6).run (.ofInt 4)).machine.memory = #v[0, 0, 0, 0, 0, 6, 6, 9, 0] := by
    decide
  obtain ⟨far, near, _⟩ := run_local agree
  have touched := near 7 (by decide)
  have untouched := (far 5 (by decide)).2
  exact ⟨agree, left, touched.symm.trans (by decide), untouched⟩

end Machine

end TapeSwarm
