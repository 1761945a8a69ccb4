import Mathlib.Algebra.Order.BigOperators.Group.Finset
import TapeSwarm.Proofs.Machine.Budget
import TapeSwarm.Proofs.Machine.Ribbon

/-!
# Effort

What a clean run leaves has to be paid for by operations. A byte of output takes an operation, and
so does a byte that is taken from the input. A cell that is not zero has been written, and cells
next to each other on the way of the pointer are a move apart.

An *account* splits the operations that something was done in into moves, writes and emissions, and
keeps the cells that the pointer has been on. These are at most one more than the moves, and the
cells that are not zero are among them; they are also no more than the writes. Each action adds at
most one entry (`Effect.covered`), and so does each step.

Result: `execute_paid`.
-/

namespace TapeSwarm

/-- An account of what has been done to a store. -/
structure Account (size : Nat) where
  /-- The cells that the pointer has been on. -/
  visited : Finset (Fin size)
  moves : Nat
  writes : Nat
  emissions : Nat

namespace Account

variable {size : Nat}

/-- The operations that an account has entries for. -/
def total (a : Account size) : Nat :=
  a.moves + a.writes + a.emissions

/-- The account of a store that nothing has been done to. -/
def opening (p : Fin size) : Account size :=
  ⟨{p}, 0, 0, 0⟩

end Account

namespace Store

variable {size : Nat}

/-- The positions of the cells that are not zero. -/
def occupied (s : Store size) : Finset (Fin size) :=
  Finset.univ.filter fun i => s.memory.get i ≠ 0

theorem mem_occupied {s : Store size} {i : Fin size} : i ∈ s.occupied ↔ s.memory.get i ≠ 0 := by
  simp [occupied]

/-- Writing a cell leaves at most this cell occupied besides the others. -/
theorem occupied_write_subset (s : Store size) (value : UInt8) :
    (s.write value).occupied ⊆ insert s.pointer s.occupied := by
  intro i found
  rw [mem_occupied, memory_write] at found
  rw [Finset.mem_insert, mem_occupied]
  by_cases here : s.pointer = i
  · exact .inl here.symm
  · rw [if_neg here] at found
    exact .inr found

/-- An account covers a store whose cells were zero once, when nothing was put out and `queued` was
the input. -/
structure Covered (queued : List UInt8) (a : Account size) (s : Store size) : Prop where
  pointer : s.pointer ∈ a.visited
  occupied : s.occupied ⊆ a.visited
  visited : a.visited.card ≤ a.moves + 1
  written : s.occupied.card ≤ a.writes
  output : s.output.size ≤ a.emissions
  input : queued.length ≤ s.input.length + a.writes

variable {queued : List UInt8} {a : Account size} {s t : Store size}

theorem Covered.move (covered : Covered queued a s) (p : Fin size) :
    Covered queued { a with visited := insert p a.visited, moves := a.moves + 1 }
      { s with pointer := p } where
  pointer := Finset.mem_insert_self _ _
  occupied := covered.occupied.trans (Finset.subset_insert _ _)
  visited := (Finset.card_insert_le _ _).trans (Nat.add_le_add_right covered.visited 1)
  written := covered.written
  output := covered.output
  input := covered.input

theorem Covered.write (covered : Covered queued a s) (value : UInt8) :
    Covered queued { a with writes := a.writes + 1 } (s.write value) where
  pointer := covered.pointer
  occupied := (s.occupied_write_subset value).trans
    (Finset.insert_subset covered.pointer covered.occupied)
  visited := covered.visited
  written := (Finset.card_le_card (s.occupied_write_subset value)).trans
    ((Finset.card_insert_le _ _).trans (Nat.add_le_add_right covered.written 1))
  output := covered.output
  input := Nat.le_succ_of_le covered.input

theorem Covered.output_le (covered : Covered queued a s) : s.output.size ≤ a.total := by
  have output := covered.output
  unfold Account.total
  omega

/-- Cells that are not zero have been visited, and have been written. -/
theorem Covered.occupied_le (covered : Covered queued a s) :
    s.output.size + 2 * s.occupied.card ≤ a.total + 1 := by
  have onWay := (Finset.card_le_card covered.occupied).trans covered.visited
  have written := covered.written
  have output := covered.output
  unfold Account.total
  omega

theorem Covered.consumed_le (covered : Covered queued a s) :
    queued.length + s.output.size ≤ s.input.length + a.total := by
  have input := covered.input
  have output := covered.output
  unfold Account.total
  omega

/-- An action takes at most one entry. -/
theorem Effect.covered (effect : s.Effect t) (covered : Covered queued a s) :
    ∃ b : Account size, b.total ≤ a.total + 1 ∧ Covered queued b t := by
  unfold Account.total
  cases effect with
  | nothing => exact ⟨a, Nat.le_succ _, covered⟩
  | right => exact ⟨_, by dsimp only; omega, covered.move _⟩
  | left => exact ⟨_, by dsimp only; omega, covered.move _⟩
  | write value => exact ⟨_, by dsimp only; omega, covered.write value⟩
  | emit =>
    refine ⟨{ a with emissions := a.emissions + 1 }, by dsimp only; omega, ?_⟩
    refine ⟨covered.pointer, covered.occupied, covered.visited, covered.written, ?_, covered.input⟩
    show (s.output.push s.cell).size ≤ a.emissions + 1
    rw [Array.size_push]
    exact Nat.add_le_add_right covered.output 1
  | @accept value rest queue =>
    have written := covered.write value
    have before := covered.input
    rw [queue, List.length_cons] at before
    refine ⟨{ a with writes := a.writes + 1 }, by dsimp only; omega, ?_⟩
    refine ⟨written.pointer, written.occupied, written.visited, written.written, written.output, ?_⟩
    show queued.length ≤ rest.length + (a.writes + 1)
    omega

end Store

namespace Machine

variable {size : Nat}

/-- Steps take no more entries than they perform instructions. -/
theorem covered_steps {queued : List UInt8} {m : Machine size} {a : Account size}
    (covered : m.store.Covered queued a) (n : Nat) :
    ∃ b : Account size, b.total ≤ a.total + m.performed n ∧
      (m.steps n).store.Covered queued b := by
  induction n generalizing m a with
  | zero => exact ⟨a, Nat.le_refl _, covered⟩
  | succ n ih =>
    rw [performed, steps]
    rcases step_cases m with ⟨finished, stepped⟩ | ⟨b, found, stepped⟩
    · have still : m.step.1.store.Covered queued a := by
        rw [stepped]
        exact covered
      obtain ⟨c, few, after⟩ := ih still
      exact ⟨c, by omega, after⟩
    · have going := not_isHalted_iff.mpr (lt_length_of_getElem? found)
      obtain ⟨c, one, acted⟩ := (m.store.effect_act b).covered covered
      have next : m.step.1.store.Covered queued c := by
        rw [stepped]
        exact acted
      obtain ⟨d, few, after⟩ := ih next
      rw [going, if_neg Bool.false_ne_true]
      exact ⟨d, by omega, after⟩

/-- A tape that is run clean starts with nothing to account for. -/
theorem covered_start (m : Machine size) (tape : Tape) :
    (m.reset.load tape).store.Covered m.input (.opening m.reset.dataPointer) where
  pointer := Finset.mem_singleton_self _
  occupied := fun i found => by
    refine absurd ?_ (Store.mem_occupied.mp found)
    exact Vector.getElem_replicate i.isLt
  visited := Nat.le_refl 1
  written := by
    refine Nat.le_of_eq (Finset.card_eq_zero.mpr ?_)
    refine Finset.eq_empty_of_forall_notMem fun i found => ?_
    exact absurd (Vector.getElem_replicate i.isLt) (Store.mem_occupied.mp found)
  output := Nat.le_refl 0
  input := Nat.le_refl _

/-- A clean run has an account with no more entries than it counts operations. -/
theorem covered_runClean (m : Machine size) (tape : Tape) (budget : Budget) :
    ∃ a : Account size, a.total ≤ (m.runClean tape budget).operations ∧
      (m.runClean tape budget).store.Covered m.input a := by
  obtain ⟨k, _, all, left, _⟩ := (m.reset.load tape).run_cases budget
  obtain ⟨a, paid, covered⟩ := covered_steps (m.covered_start tape) k
  have blank : (Account.opening m.reset.dataPointer).total = 0 := rfl
  rw [blank, Nat.zero_add, all] at paid
  rw [runClean, left]
  exact ⟨a, paid, covered⟩

/-- The list of cells that are not zero has an entry for each of them. -/
theorem length_occupied (m : Machine size) : m.occupied.length = m.store.occupied.card := by
  have counted (pick : UInt8 × Nat → Option (Nat × UInt8))
      (shows : ∀ v i, (pick (v, i)).isSome = decide (v ≠ 0)) (cells : List UInt8) (i : Nat) :
      ((cells.zipIdx i).filterMap pick).length =
        (cells.map fun v => if v ≠ 0 then 1 else 0).sum := by
    rw [List.length_filterMap_eq_countP]
    induction cells generalizing i with
    | nil => rfl
    | cons v rest ih =>
      rw [List.zipIdx_cons, List.countP_cons, List.map_cons, List.sum_cons, ih (i + 1), shows,
        Nat.add_comm]
      simp only [decide_eq_true_eq]
  unfold Store.occupied
  rw [Finset.card_filter]
  refine (counted _ (fun v i => ?_) m.memory.toList 0).trans
    (sum_map_toList m.memory fun v => if v ≠ 0 then 1 else 0)
  by_cases zero : v = 0
  · simp [zero]
  · simp [zero]

theorem memorySum_le (m : Machine size) : m.memorySum ≤ 255 * m.store.occupied.card := by
  unfold Store.occupied
  rw [memorySum_eq_sum, Finset.card_filter, Finset.mul_sum]
  refine Finset.sum_le_sum fun i _ => ?_
  show (m.memory.get i).toNat ≤ 255 * if m.memory.get i ≠ 0 then 1 else 0
  split
  · exact Nat.le_of_lt_succ (m.memory.get i).toNat_lt
  · next zero =>
    rw [not_not.mp zero]
    exact Nat.zero_le _

/-- What a clean run leaves is paid for by its operations, of which there are no more than allowed:
a byte of output by one, and a byte that was taken from the input by one more. Where there are
cells that are not zero, it takes two operations for each of them but one, besides those that the
output takes. Such a cell adds no more than 255 to the sum. -/
theorem execute_paid (m : Machine size) {source : Source} {tape : Tape}
    (read : source.read = .ok tape) (maxSteps patternSize : Int) :
    ∃ (done : Machine size) (result : Snapshot) (consumed : List UInt8),
      m.execute source (.ofInt maxSteps) patternSize = (done, .ok result) ∧
      m.input = consumed ++ done.input ∧
      result.operations ≤ max 0 maxSteps ∧
      result.output.length ≤ result.operations ∧
      (1 ≤ done.occupied.length →
        (result.output.length : Int) + 2 * done.occupied.length - 1 ≤ result.operations) ∧
      result.memorySum ≤ 255 * done.occupied.length ∧
      (consumed.length : Int) + result.output.length ≤ result.operations := by
  obtain ⟨consumed, taken⟩ := m.input_runClean_suffix tape (.ofInt maxSteps)
  obtain ⟨a, paid, covered⟩ := m.covered_runClean tape (.ofInt maxSteps)
  have few : (m.runClean tape (.ofInt maxSteps)).operations ≤ maxSteps.toNat := by
    rw [runClean_ofInt]
    exact performed_le _ _
  have executed := execute_of_read read m (.ofInt maxSteps) patternSize
  generalize m.runClean tape (.ofInt maxSteps) = done at taken paid covered few executed
  refine ⟨done, done.snapshot patternSize, consumed, executed, taken.symm, ?_⟩
  have count : (done.snapshot patternSize).operations = done.operations := rfl
  have sum : (done.snapshot patternSize).memorySum = done.memorySum := rfl
  have shown : (done.snapshot patternSize).output.length = done.store.output.size := by
    show (done.output.toList.map _).length = done.output.size
    rw [List.length_map, Array.length_toList]
  have queue : m.input.length = consumed.length + done.store.input.length := by
    rw [← taken, List.length_append]
    rfl
  have output := covered.output_le
  have cells := covered.occupied_le
  have input := covered.consumed_le
  have bytes := done.memorySum_le
  rw [count, sum, shown, length_occupied]
  exact ⟨by omega, by omega, fun _ => by omega, by omega, by omega⟩

/-- A run that goes around the seam, and that fewer operations could not pay for. -/
theorem execute_paid_exactly :
    (Source.text [',', '<', ',', '.']).read = .ok [44, 60, 44, 46] ∧
    ∃ (done : Machine 3) (result : Snapshot) (consumed : List UInt8),
      ((blank 3 (by decide)).feed [5, 6, 7]).execute (.text [',', '<', ',', '.']) (.ofInt 9) 2 =
        (done, .ok result) ∧
      result = ⟨4, 11, [5, 0], [6]⟩ ∧ done.occupied = [(0, 5), (2, 6)] ∧
      (result.output.length : Int) + 2 * done.occupied.length - 1 ≤ result.operations ∧
      (consumed.length : Int) + result.output.length ≤ result.operations := by
  have read : (Source.text [',', '<', ',', '.']).read = .ok [44, 60, 44, 46] := rfl
  obtain ⟨done, result, consumed, executed, _, _, _, cells, _, input⟩ :=
    execute_paid ((blank 3 (by decide)).feed [5, 6, 7]) read 9 2
  have answer : (((blank 3 (by decide)).feed [5, 6, 7]).execute (.text [',', '<', ',', '.'])
      (.ofInt 9) 2).2 = .ok ⟨4, 11, [5, 0], [6]⟩ := rfl
  have left : (((blank 3 (by decide)).feed [5, 6, 7]).execute (.text [',', '<', ',', '.'])
      (.ofInt 9) 2).1.occupied = [(0, 5), (2, 6)] := by decide
  rw [executed] at answer left
  have some : 1 ≤ done.occupied.length := by
    rw [show done.occupied = [(0, 5), (2, 6)] from left]
    decide
  exact ⟨read, done, result, consumed, executed, Except.ok.inj answer, left, cells some, input⟩

end Machine

end TapeSwarm
