import TapeSwarm.Machine.Snapshot
import TapeSwarm.Proofs.Machine.Steps

/-!
# Budgets

A run within a budget of whole steps is that many steps, no more and no less: its ceiling is never
met, and steps beyond the end of the program leave nothing that the end of the run does not write
over. What a run does write over, the count and the status, no step looks at, so a run may be cut in
two anywhere.

Results:
1. `run_cases`: a run within any budget, as steps.
2. `run_ofInt`: a run within a budget of whole steps.
3. `run_relabel`: a run looks at neither count nor status.
4. `performed_of_le`: how many instructions fewer steps perform.
5. `run_budgets_compose`: two runs make one; a clean run within a smaller budget is the beginning of
   one within a larger.
-/

namespace TapeSwarm.Machine

variable {size : Nat}

/-! ## Count and status -/

/-- A machine with another count and status, which no step looks at. -/
def relabel (m : Machine size) (operations : Nat) (status : Status) : Machine size :=
  { m with operations, status }

theorem step_relabel (m : Machine size) (operations : Nat) (status : Status) :
    (m.relabel operations status).step.1 =
      m.step.1.relabel (operations + if m.isHalted then 0 else 1) m.step.1.status := by
  rcases step_cases m with ⟨finished, stepped⟩ | ⟨b, found, stepped⟩
  · have still : (m.relabel operations status).isHalted = true := finished
    rw [step_of_halted still, stepped, finished]
    rfl
  · have same : (m.relabel operations status).program[
        (m.relabel operations status).codePointer]? = some b := found
    rw [step_of_byte same, stepped, not_isHalted_iff.mpr (lt_length_of_getElem? found)]
    rfl

theorem performed_relabel (m : Machine size) (operations : Nat) (status : Status) (n : Nat) :
    (m.relabel operations status).performed n = m.performed n := by
  induction n generalizing m operations status with
  | zero => rfl
  | succ n ih =>
    rw [performed, performed, step_relabel, ih]
    rfl

/-- Count and status of the start do not matter to where steps lead. -/
theorem steps_relabel (m : Machine size) (operations count : Nat) (status last : Status) (n : Nat) :
    ((m.relabel operations status).steps n).relabel count last =
      (m.steps n).relabel count last := by
  induction n generalizing m operations status with
  | zero => rfl
  | succ n ih => rw [steps, steps, step_relabel, ih]

/-! ## Runs as steps -/

/-- A run from some point on stops because of its fuel or the program's end, or at its ceiling. -/
theorem runFrom_cases (ceiling : Int) (fuel taken : Nat) (m : Machine size) :
    ∃ k, k ≤ fuel ∧ m.performed k = k ∧ (runFrom ceiling fuel taken m).machine = m.steps k ∧
      ((runFrom ceiling fuel taken m).overrun = none ∧
          (k = fuel ∨ (m.steps k).isHalted = true) ∨
        0 < k ∧ ceiling < (m.steps k).operations) := by
  induction fuel generalizing taken m with
  | zero => exact ⟨0, Nat.le_refl 0, rfl, rfl, .inl ⟨rfl, .inl rfl⟩⟩
  | succ fuel ih =>
    rw [runFrom]
    cases finished : m.isHalted with
    | true =>
      rw [if_pos rfl]
      exact ⟨0, Nat.zero_le _, rfl, rfl, .inl ⟨rfl, .inr finished⟩⟩
    | false =>
      have one : m.performed 1 = 1 := by
        rw [performed, finished]
        rfl
      rw [if_neg Bool.false_ne_true]
      by_cases beyond : ceiling < m.step.1.operations
      · simp only [beyond, if_true]
        exact ⟨1, Nat.le_add_left 1 fuel, one, rfl, .inr ⟨Nat.one_pos, beyond⟩⟩
      · simp only [beyond, if_false]
        obtain ⟨k, few, all, reached, stop⟩ := ih (taken + 1) m.step.1
        refine ⟨k + 1, Nat.succ_le_succ few, ?_, reached, ?_⟩
        · rw [performed, finished, all]
          exact Nat.add_comm 1 k
        · rcases stop with ⟨quiet, rfl | ended⟩ | ⟨_, above⟩
          · exact .inl ⟨quiet, .inl rfl⟩
          · exact .inl ⟨quiet, .inr ended⟩
          · exact .inr ⟨Nat.succ_pos k, above⟩

/-- Fewer steps perform as many instructions as more steps do, as far as they go. -/
theorem performed_of_le (m : Machine size) {i j : Nat} (le : i ≤ j) :
    m.performed i = min i (m.performed j) := by
  obtain ⟨more, rfl⟩ := Nat.exists_eq_add_of_le le
  rw [performed_add]
  rcases Nat.lt_or_ge (m.performed i) i with few | all
  · rw [performed_of_isHalted (isHalted_of_performed_lt few)]
    omega
  · have most := m.performed_le i
    omega

/-- A run is a number of steps that each perform an instruction. It stops because of its allowance
or the program's end, or at its ceiling. -/
theorem run_cases (m : Machine size) (budget : Budget) :
    ∃ k, k ≤ budget.allowance ∧ m.performed k = k ∧
      (m.run budget).machine = (m.steps k).relabel k .halted ∧
      ((m.run budget).overrun = none ∧ (k = budget.allowance ∨ (m.steps k).isHalted = true) ∨
        0 < k ∧ budget.ceiling < k) := by
  obtain ⟨k, few, all, reached, stop⟩ :=
    runFrom_cases budget.ceiling budget.allowance 0 (m.relabel 0 m.status)
  have count : ((m.relabel 0 m.status).steps k).operations = k := by
    rw [operations_steps, all]
    exact Nat.zero_add k
  rw [performed_relabel] at all
  refine ⟨k, few, all, ?_, ?_⟩
  · rw [run_eq]
    show (runFrom budget.ceiling budget.allowance 0 (m.relabel 0 m.status)).machine.relabel
      (runFrom budget.ceiling budget.allowance 0 (m.relabel 0 m.status)).machine.operations
      .halted = _
    rw [reached, count, steps_relabel]
  · rw [run_eq]
    rcases stop with ⟨quiet, rfl | finished⟩ | ⟨some, above⟩
    · exact .inl ⟨quiet, .inl rfl⟩
    · have same := congrArg isHalted (steps_relabel m 0 0 m.status .halted k)
      exact .inl ⟨quiet, .inr (same.symm.trans finished)⟩
    · rw [count] at above
      exact .inr ⟨some, above⟩

/-- A run within a budget of whole steps is that many steps, and meets no ceiling. -/
theorem run_ofInt (m : Machine size) (n : Int) :
    m.run (.ofInt n) = ⟨(m.steps n.toNat).relabel (m.performed n.toNat) .halted, none⟩ := by
  obtain ⟨k, few, all, reached, stop⟩ := m.run_cases (.ofInt n)
  have parts : m.run (.ofInt n) = ⟨(m.run (.ofInt n)).machine, (m.run (.ofInt n)).overrun⟩ := rfl
  simp only [Budget.ofInt] at few stop
  rcases stop with ⟨quiet, enough⟩ | ⟨some, above⟩
  · rw [parts, reached, Budget.ofInt, quiet]
    rcases enough with rfl | finished
    · rw [all]
    · obtain ⟨status, later⟩ := steps_of_le few finished
      rw [later, performed_eq_of_le few finished, all]
      rfl
  · -- ten times the budget is no less than a count within the budget
    omega

/-- A run with its machine halted. -/
def Run.halt (run : Run size) : Run size :=
  { run with machine := run.machine.relabel run.machine.operations .halted }

theorem step_relabel_status (m : Machine size) (status : Status) :
    (m.relabel m.operations status).step.1 = m.step.1 :=
  calc
    (m.relabel m.operations status).step.1 =
        m.step.1.relabel (m.operations + if m.isHalted then 0 else 1) m.step.1.status :=
      m.step_relabel _ _
    _ = (m.relabel m.operations m.status).step.1 := (m.step_relabel _ _).symm

theorem halt_runFrom_relabel (m : Machine size) (status : Status) (ceiling : Int)
    (fuel taken : Nat) :
    (runFrom ceiling fuel taken (m.relabel m.operations status)).halt =
      (runFrom ceiling fuel taken m).halt := by
  have same : (m.relabel m.operations status).isHalted = m.isHalted := rfl
  cases fuel with
  | zero => rfl
  | succ fuel =>
    -- a step writes the status itself, so that no difference is left after the first one
    rw [runFrom, runFrom, step_relabel_status, same]
    split
    · rfl
    · rfl

/-- Neither the count nor the status of a machine matters to a run. -/
theorem run_relabel (m : Machine size) (operations : Nat) (status : Status) (budget : Budget) :
    (m.relabel operations status).run budget = m.run budget :=
  calc
    (m.relabel operations status).run budget =
        (runFrom budget.ceiling budget.allowance 0 (m.relabel 0 status)).halt := run_eq _ _
    _ = (runFrom budget.ceiling budget.allowance 0 (m.relabel 0 m.status)).halt :=
      halt_runFrom_relabel (m.relabel 0 m.status) status _ _ _
    _ = m.run budget := (run_eq _ _).symm

/-- A clean run within a budget of whole steps, as steps. -/
theorem runClean_ofInt (m : Machine size) (tape : Tape) (n : Int) :
    m.runClean tape (.ofInt n) =
      ((m.reset.load tape).steps n.toNat).relabel ((m.reset.load tape).performed n.toNat)
        .halted := by
  rw [runClean, run_ofInt]

/-- A source that is a tape gets a clean run and a snapshot. -/
theorem execute_of_read {source : Source} {tape : Tape} (read : source.read = .ok tape)
    (m : Machine size) (budget : Budget) (patternSize : Int) :
    m.execute source budget patternSize =
      (m.runClean tape budget, .ok ((m.runClean tape budget).snapshot patternSize)) := by
  rw [execute, read]

/-! ## Runs make runs -/

/-- The output only grows. -/
theorem output_step_extends (m : Machine size) :
    m.output.toList <+: m.step.1.output.toList := by
  rcases step_cases m with ⟨_, stepped⟩ | ⟨b, _, stepped⟩
  · simp only [stepped, List.prefix_refl]
  · rw [stepped]
    exact (m.store.effect_act b).output_extends

theorem output_steps_extends (m : Machine size) {i j : Nat} (le : i ≤ j) :
    (m.steps i).output.toList <+: (m.steps j).output.toList := by
  obtain ⟨more, rfl⟩ := Nat.exists_eq_add_of_le le
  clear le
  induction more with
  | zero => exact List.prefix_refl _
  | succ more ih =>
    rw [← Nat.add_assoc, steps_succ]
    exact ih.trans (output_step_extends _)

/-- The input is only taken from. -/
theorem input_step_suffix (m : Machine size) : m.step.1.input <:+ m.input := by
  rcases step_cases m with ⟨_, stepped⟩ | ⟨b, _, stepped⟩
  · simp only [stepped, List.suffix_refl]
  · rw [stepped]
    exact (m.store.effect_act b).input_suffix

theorem input_steps_suffix (m : Machine size) (n : Nat) : (m.steps n).input <:+ m.input := by
  induction n with
  | zero => exact List.suffix_refl _
  | succ n ih =>
    rw [steps_succ]
    exact (input_step_suffix _).trans ih

/-- A clean run leaves nothing queued that was not queued before. -/
theorem input_runClean_suffix (m : Machine size) (tape : Tape) (budget : Budget) :
    (m.runClean tape budget).input <:+ m.input := by
  obtain ⟨k, _, _, left, _⟩ := (m.reset.load tape).run_cases budget
  rw [runClean, left]
  exact (m.reset.load tape).input_steps_suffix k

/-- A run after a run is one run, but for the count, and the counts add up. -/
theorem run_ofInt_run_ofInt (m : Machine size) (a b : Int) :
    ((m.run (.ofInt a)).machine.run (.ofInt b)).machine =
        (m.run (.ofInt (max a 0 + max b 0))).machine.relabel
          ((m.steps a.toNat).performed b.toNat) .halted ∧
      m.performed a.toNat + (m.steps a.toNat).performed b.toNat =
        m.performed (max a 0 + max b 0).toNat := by
  have total : (max a 0 + max b 0).toNat = a.toNat + b.toNat := by omega
  constructor
  · simp only [run_ofInt]
    rw [steps_relabel, performed_relabel, total, steps_add]
    rfl
  · rw [total, performed_add]

/-- Two runs in a row leave what one run within the sum of their budgets leaves, but for the count
of operations, and their counts add up to its count. Of two clean runs of a tape the one with the
smaller budget performs as many operations as the other one, up to its budget, and shows a beginning
of the other's output; if it did not need its budget, the two do not differ. -/
theorem run_budgets_compose (m : Machine size) :
    (∀ a b : Int,
      let first := (m.run (.ofInt a)).machine
      let second := (first.run (.ofInt b)).machine
      let whole := (m.run (.ofInt (max a 0 + max b 0))).machine
      second = { whole with operations := second.operations } ∧
        first.operations + second.operations = whole.operations) ∧
    ∀ (source : Source) (tape : Tape) (patternSize few more : Int),
      source.read = .ok tape → few ≤ more →
      ∃ less full : Snapshot,
        (m.execute source (.ofInt few) patternSize).2 = .ok less ∧
        (m.execute source (.ofInt more) patternSize).2 = .ok full ∧
        less.operations = min (max few 0) full.operations ∧
        less.output <+: full.output ∧
        (less.operations < few →
          m.execute source (.ofInt few) patternSize =
            m.execute source (.ofInt more) patternSize) := by
  constructor
  · intro a b
    obtain ⟨same, counts⟩ := run_ofInt_run_ofInt m a b
    simp only [same]
    simp only [run_ofInt]
    exact ⟨rfl, counts⟩
  · intro source tape patternSize few more read le
    have within : few.toNat ≤ more.toNat := Int.toNat_le_toNat le
    have fewer := (m.reset.load tape).performed_of_le within
    rw [execute_of_read read, execute_of_read read, runClean_ofInt, runClean_ofInt]
    refine ⟨_, _, rfl, rfl, ?_, ?_, ?_⟩
    · show ((m.reset.load tape).performed few.toNat : Int) =
        min (max few 0) ((m.reset.load tape).performed more.toNat)
      omega
    · exact ((m.reset.load tape).output_steps_extends within).map _
    · intro spare
      replace spare : ((m.reset.load tape).performed few.toNat : Int) < few := spare
      have finished := isHalted_of_performed_lt (m := m.reset.load tape) (n := few.toNat) (by omega)
      obtain ⟨status, later⟩ := steps_of_le within finished
      rw [later, performed_eq_of_le within finished]
      rfl

theorem run_budgets_compose_cut :
    (Source.text ['+', '[', '.', '+', ']']).read = .ok [43, 91, 46, 43, 93] ∧ (3 : Int) ≤ 7 ∧
    ∃ less full : Snapshot,
      ((blank 2 Nat.two_pos).execute (.text ['+', '[', '.', '+', ']']) (.ofInt 3) 2).2 =
          .ok less ∧
      ((blank 2 Nat.two_pos).execute (.text ['+', '[', '.', '+', ']']) (.ofInt 7) 2).2 =
          .ok full ∧
      less.operations = min (max 3 0) full.operations ∧ less.output <+: full.output := by
  have read : (Source.text ['+', '[', '.', '+', ']']).read = .ok [43, 91, 46, 43, 93] := rfl
  have le : (3 : Int) ≤ 7 := by decide
  obtain ⟨less, full, fewer, more, count, begins, _⟩ :=
    (run_budgets_compose (blank 2 Nat.two_pos)).2 _ _ 2 3 7 read le
  exact ⟨read, le, less, full, fewer, more, count, begins⟩

end TapeSwarm.Machine
