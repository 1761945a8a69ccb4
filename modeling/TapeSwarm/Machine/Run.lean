import TapeSwarm.Machine.Basic
import TapeSwarm.Event

/-!
Bounded runs.

A budget allows a number of steps and puts a ceiling on the operations counted meanwhile. A run
starts the count anew, steps until the program or the allowance is over, and leaves the machine
halted in either case. For a budget that is a whole number the ceiling is never met; for a budget
below a tenth of a step it is met by the first step.
-/

namespace TapeSwarm

/-- What a run may spend. -/
structure Budget where
  /-- The most steps. -/
  allowance : Nat
  /-- A run that counts more operations than this stops with a warning. -/
  ceiling : Int
  deriving DecidableEq, Repr

namespace Budget

/-- A budget of whole steps; below zero there are none. -/
def ofInt (steps : Int) : Budget :=
  ⟨steps.toNat, steps * 10⟩

/-- A budget with a fraction: a step may start as long as fewer than `steps` were taken. -/
def ofRat (steps : Rat) : Budget :=
  ⟨steps.ceil.toNat, (steps * 10).floor⟩

/-- The budget where none is given. -/
def default : Budget := ofInt 1000

end Budget

namespace Machine

variable {size : Nat}

/-- What a run leaves: the machine, and the ceiling's warning if it was met. -/
structure Run (size : Nat) where
  machine : Machine size
  overrun : Option Event

/-- Steps on in some code, at most `fuel` times, with `taken` steps behind. -/
def runIn (code : Code) (ceiling : Int) : Nat → Nat → Machine size → Run size
  | 0, _, m => ⟨m, none⟩
  | fuel + 1, taken, m =>
    if code.length ≤ m.codePointer then ⟨m, none⟩
    else
      let next := (stepIn code m).1
      if ceiling < next.operations then
        ⟨next, some (.overrun next.operations ceiling (taken + 1))⟩
      else runIn code ceiling fuel (taken + 1) next

/-- Steps on, at most `fuel` times, with `taken` steps behind. -/
def runFrom (ceiling : Int) : Nat → Nat → Machine size → Run size
  | 0, _, m => ⟨m, none⟩
  | fuel + 1, taken, m =>
    if m.isHalted then ⟨m, none⟩
    else
      let next := m.step.1
      if ceiling < next.operations then
        ⟨next, some (.overrun next.operations ceiling (taken + 1))⟩
      else runFrom ceiling fuel (taken + 1) next

/-- The code of a machine, laid out so that looking something up takes no search. -/
def indexedCode (m : Machine size) : Code :=
  let bytes := m.program.toArray
  let partners := m.brackets.indexed bytes.size
  { length := bytes.size
    byte? := fun i => bytes[i]?
    partner? := fun i => partners[i]?.getD (m.brackets.partner? i) }

/-- Laying out the code of a machine does not change it. -/
theorem indexedCode_eq (m : Machine size) : m.indexedCode = m.code := by
  have partners : (fun i =>
      (m.brackets.indexed m.program.length)[i]?.getD (m.brackets.partner? i)) =
        m.brackets.partner? := by
    funext i
    by_cases inside : i < m.program.length
    · rw [Brackets.getElem?_indexed _ inside]
      rfl
    · rw [Array.getElem?_eq_none (by rw [Brackets.size_indexed]; omega)]
      rfl
  simp [indexedCode, code, partners]

/-- A step leaves the code as it is. -/
theorem code_step (m : Machine size) : m.step.1.code = m.code := by
  have kept (instruction : Option Instruction) :
      (performIn m.code m instruction).code = m.code := by
    unfold performIn
    repeat' split
    all_goals rfl
  unfold step stepIn
  split
  · rfl
  · exact kept _

/-- Running in the code of a machine is stepping on. -/
theorem runIn_code (ceiling : Int) (fuel taken : Nat) (m : Machine size) :
    runIn m.code ceiling fuel taken m = runFrom ceiling fuel taken m := by
  induction fuel generalizing taken m with
  | zero => rfl
  | succ fuel ih =>
    have next := ih (taken + 1) m.step.1
    rw [code_step] at next
    have halted : m.isHalted = decide (m.code.length ≤ m.codePointer) := rfl
    rw [runIn, runFrom, halted]
    by_cases ended : m.code.length ≤ m.codePointer
    · simp only [ended, decide_true, if_true]
    · simp only [ended, decide_false, if_false, Bool.false_eq_true]
      change (if ceiling < m.step.1.operations then _
        else runIn m.code ceiling fuel (taken + 1) m.step.1) = _
      rw [next]
      rfl

/-- Runs within a budget. The operations of the machine that is left are those of this run. -/
def run (m : Machine size) (budget : Budget) : Run size :=
  let done := runIn m.indexedCode budget.ceiling budget.allowance 0 { m with operations := 0 }
  { done with machine := { done.machine with status := .halted } }

/-- A run steps on as far as its budget allows, and leaves the machine halted. -/
theorem run_eq (m : Machine size) (budget : Budget) :
    m.run budget =
      let done := runFrom budget.ceiling budget.allowance 0 { m with operations := 0 }
      { done with machine := { done.machine with status := .halted } } := by
  have same : m.indexedCode = code { m with operations := 0 } := indexedCode_eq m
  simp only [run, same, runIn_code]

end Machine

end TapeSwarm
