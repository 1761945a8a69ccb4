import TapeSwarm.Machine.Displaced
import TapeSwarm.Proofs.Machine.Budget

/-!
# Reachable machines

What holds of a machine after any history of requests, whether or not its sources were tapes.

* `Consistent` ties the fields together: the bracket table is that of the program, a running machine
  is within its program, an idle one is blank. Every request keeps it.
* The code pointer may be beyond the program by more than one, since a shorter program can be loaded
  in mid-run. It is bounded by the longest program since the last restart
  (`codePointer_after_le`).
* The byte at index 0 is performed at most once between restarts (`count_visitsOf_le`): each
  instruction leaves the code pointer behind index 0, and without a restart nothing moves it back.
* Displaced machines have faults; a machine in place never meets one (`run_inPlace`).

Result: `reachable_in_order`.
-/

namespace TapeSwarm

namespace Machine

variable {size : Nat}

/-! ## The invariant -/

/-- What the fields of a machine have to do with each other. -/
structure Consistent (m : Machine size) : Prop where
  brackets : m.brackets = Brackets.ofTape m.program
  running : m.status = .running → m.codePointer < m.program.length
  idle : m.status = .idle →
    m.memory = Vector.replicate size 0 ∧ m.dataPointer.val = 0 ∧ m.codePointer = 0 ∧
      m.operations = 0 ∧ m.output = #[]

theorem consistent_blank (positive : 0 < size) : (blank size positive).Consistent where
  brackets := rfl
  running := fun running => nomatch running
  idle := fun _ => ⟨rfl, rfl, rfl, rfl, rfl⟩

theorem consistent_of_halted {m : Machine size} (brackets : m.brackets = Brackets.ofTape m.program)
    (halted : m.status = .halted) : m.Consistent where
  brackets := brackets
  running := fun running => by simp [halted] at running
  idle := fun idle => by simp [halted] at idle

theorem Consistent.reset {m : Machine size} (consistent : m.Consistent) : m.reset.Consistent where
  brackets := consistent.brackets
  running := fun running => nomatch running
  idle := fun _ => ⟨rfl, rfl, rfl, rfl, rfl⟩

theorem consistent_load (m : Machine size) (tape : Tape) : (m.load tape).Consistent where
  brackets := rfl
  running := fun running => nomatch running
  idle := fun idle => nomatch idle

theorem Consistent.feed {m : Machine size} (consistent : m.Consistent) (values : List UInt8) :
    (m.feed values).Consistent where
  brackets := consistent.brackets
  running := consistent.running
  idle := consistent.idle

theorem Consistent.step {m : Machine size} (consistent : m.Consistent) :
    m.step.1.Consistent := by
  have brackets : m.step.1.brackets = Brackets.ofTape m.step.1.program := by
    rw [brackets_step, program_step, consistent.brackets]
  rcases step_cases m with ⟨_, stepped⟩ | ⟨b, _, stepped⟩
  · exact consistent_of_halted brackets (by rw [stepped])
  · by_cases ended : m.program.length ≤ m.target b + 1
    · exact consistent_of_halted brackets (by rw [stepped]; exact if_pos ended)
    · have running : m.step.1.status = .running := by rw [stepped]; exact if_neg ended
      refine ⟨brackets, fun _ => ?_, fun idle => by simp [running] at idle⟩
      rw [stepped]
      exact Nat.lt_of_not_le ended

theorem Consistent.run {m : Machine size} (consistent : m.Consistent) (budget : Budget) :
    (m.run budget).machine.Consistent := by
  obtain ⟨k, _, _, left, _⟩ := m.run_cases budget
  rw [left]
  refine consistent_of_halted ?_ rfl
  show (m.steps k).brackets = Brackets.ofTape (m.steps k).program
  rw [brackets_steps, program_steps, consistent.brackets]

/-- A request keeps a machine consistent. -/
theorem Consistent.respond {m : Machine size} (consistent : m.Consistent) (request : Request) :
    (m.respond request).machine.Consistent := by
  cases request with
  | reset => exact consistent.reset
  | load source =>
    simp only [Machine.respond]
    cases source.read with
    | error fault => exact consistent
    | ok tape => exact consistent_load m tape
  | feed source =>
    simp only [Machine.respond]
    cases source.read with
    | error fault => exact consistent
    | ok values => exact consistent.feed values
  | step => exact consistent.step
  | run budget => exact consistent.run budget
  | execute source budget patternSize =>
    simp only [Machine.respond, execute]
    cases source.read with
    | error fault => exact consistent.reset
    | ok tape => exact (consistent_load m.reset tape).run budget

theorem Consistent.after {m : Machine size} (consistent : m.Consistent) (history : List Request) :
    (m.after history).Consistent := by
  induction history generalizing m with
  | nil => exact consistent
  | cons request rest ih => exact ih (consistent.respond request)

/-! ## How far the code pointer gets -/

/-- Whether a request puts the code pointer back to the start. -/
def Request.restarts : Request → Bool
  | .reset | .execute .. => true
  | .load _ | .feed _ | .step | .run _ => false

/-- The length of the longest program that a machine has had since its last restart, after a history
of requests. Before the history that length is `longest`. -/
def longestProgram (m : Machine size) (longest : Nat) : List Request → Nat
  | [] => longest
  | request :: rest =>
    let next := (m.respond request).machine
    next.longestProgram
      (if request.restarts then next.program.length else max longest next.program.length) rest

/-- Jumps lead to positions of the program, or to its end. -/
theorem Consistent.target_le {m : Machine size} (consistent : m.Consistent) {b : UInt8}
    (found : m.program[m.codePointer]? = some b) : m.target b ≤ m.program.length := by
  have here : m.codePointer ≤ m.program.length := Nat.le_of_lt (lt_length_of_getElem? found)
  have jump (other : Nat) (le : other ≤ m.program.length) :
      (m.brackets.partner? m.codePointer).getD other ≤ m.program.length := by
    cases paired : m.brackets.partner? m.codePointer with
    | none => exact le
    | some partner =>
      rw [consistent.brackets] at paired
      exact Nat.le_of_lt (Brackets.partner?_lt_length paired)
  unfold target
  split
  · split
    · exact jump _ (Nat.le_refl _)
    · exact here
  · split
    · exact here
    · exact jump _ (Nat.zero_le _)
  · exact here

theorem Consistent.codePointer_step_le {m : Machine size} (consistent : m.Consistent) :
    m.step.1.codePointer ≤ max m.codePointer (m.program.length + 1) := by
  rcases step_cases m with ⟨_, stepped⟩ | ⟨b, found, stepped⟩
  · rw [stepped]
    exact Nat.le_max_left _ _
  · have bound := consistent.target_le found
    rw [stepped]
    show m.target b + 1 ≤ _
    omega

theorem Consistent.codePointer_steps_le {m : Machine size} (consistent : m.Consistent) (n : Nat) :
    (m.steps n).codePointer ≤ max m.codePointer (m.program.length + 1) := by
  induction n generalizing m with
  | zero => exact Nat.le_max_left _ _
  | succ n ih =>
    have first := consistent.codePointer_step_le
    have others := ih consistent.step
    rw [program_step] at others
    rw [steps]
    omega

theorem Consistent.codePointer_run_le {m : Machine size} (consistent : m.Consistent)
    (budget : Budget) :
    (m.run budget).machine.codePointer ≤
      max m.codePointer ((m.run budget).machine.program.length + 1) := by
  obtain ⟨k, _, _, left, _⟩ := m.run_cases budget
  rw [left]
  show (m.steps k).codePointer ≤ max _ ((m.steps k).program.length + 1)
  rw [program_steps]
  exact consistent.codePointer_steps_le k

/-- After a request the code pointer is where it was before, or not far beyond the program. -/
theorem Consistent.codePointer_respond_le {m : Machine size} (consistent : m.Consistent)
    (request : Request) :
    (m.respond request).machine.codePointer ≤
      max (if request.restarts then 0 else m.codePointer)
        ((m.respond request).machine.program.length + 1) := by
  cases request with
  | reset => exact Nat.zero_le _
  | load source =>
    simp only [Machine.respond]
    cases source.read with
    | error fault => exact Nat.le_max_left _ _
    | ok tape => exact Nat.le_max_left _ _
  | feed source =>
    simp only [Machine.respond]
    cases source.read with
    | error fault => exact Nat.le_max_left _ _
    | ok values => exact Nat.le_max_left _ _
  | step =>
    show m.step.1.codePointer ≤ max m.codePointer (m.step.1.program.length + 1)
    rw [program_step]
    exact consistent.codePointer_step_le
  | run budget => exact consistent.codePointer_run_le budget
  | execute source budget patternSize =>
    simp only [Machine.respond, execute]
    cases source.read with
    | error fault => exact Nat.zero_le _
    | ok tape => exact (consistent_load m.reset tape).codePointer_run_le budget

/-- The code pointer is never farther than one position beyond the longest program since the last
restart. -/
theorem Consistent.codePointer_after_le {m : Machine size} (consistent : m.Consistent)
    {longest : Nat} (bound : m.codePointer ≤ longest + 1) (history : List Request) :
    (m.after history).codePointer ≤ m.longestProgram longest history + 1 := by
  induction history generalizing m longest with
  | nil => exact bound
  | cons request rest ih =>
    -- a restart forgets the old bound, any other request keeps the larger of the two
    refine ih (consistent.respond request) ?_
    have moved := consistent.codePointer_respond_le request
    split
    · next restarts =>
      rw [if_pos restarts] at moved
      omega
    · next goesOn =>
      rw [if_neg goesOn] at moved
      omega

/-! ## The byte at index 0 -/

/-- The positions of the instructions performed in `n` steps, in order. -/
def path : Machine size → Nat → List Nat
  | _, 0 => []
  | m, n + 1 => if m.isHalted then [] else m.codePointer :: path m.step.1 n

/-- The positions of the instructions that a request performs, in order. -/
def visits (m : Machine size) : Request → List Nat
  | .reset | .load _ | .feed _ => []
  | .step => m.path 1
  | .run budget => m.path (m.run budget).machine.operations
  | .execute source budget _ =>
    match source.read with
    | .error _ => []
    | .ok tape => (m.reset.load tape).path (m.runClean tape budget).operations

/-- The positions of the instructions that a history performs, in order. -/
def visitsOf (m : Machine size) : List Request → List Nat
  | [] => []
  | request :: rest => m.visits request ++ (m.respond request).machine.visitsOf rest

/-- How often the byte at index 0 can still be performed without a restart. -/
def startsLeft (m : Machine size) : Nat :=
  if m.codePointer = 0 then 1 else 0

theorem count_path_le (m : Machine size) (n : Nat) :
    (m.path n).count 0 + (m.steps n).startsLeft ≤ m.startsLeft := by
  induction n generalizing m with
  | zero => exact Nat.le_of_eq (Nat.zero_add _)
  | succ n ih =>
    rw [path]
    cases finished : m.isHalted with
    | true =>
      rw [if_pos rfl, steps_of_isHalted finished]
      exact Nat.le_of_eq (Nat.zero_add _)
    | false =>
      -- wherever the step leads, it is not index 0, so only this byte can have counted
      have moved : m.step.1.startsLeft = 0 :=
        if_neg (Nat.ne_of_gt (codePointer_step_pos finished))
      have rest := ih m.step.1
      rw [moved] at rest
      rw [if_neg Bool.false_ne_true, List.count_cons, steps]
      simp only [startsLeft, beq_iff_eq] at rest ⊢
      omega

/-- A request that does not restart a machine performs the byte at index 0 only from there. -/
theorem count_visits_le (m : Machine size) {request : Request} (goesOn : request.restarts = false) :
    (m.visits request).count 0 + (m.respond request).machine.startsLeft ≤ m.startsLeft := by
  cases request with
  | reset => contradiction
  | execute source budget patternSize => contradiction
  | load source =>
    simp only [Machine.respond, visits]
    cases source.read with
    | error fault => exact Nat.le_of_eq (Nat.zero_add _)
    | ok tape => exact Nat.le_of_eq (Nat.zero_add _)
  | feed source =>
    simp only [Machine.respond, visits]
    cases source.read with
    | error fault => exact Nat.le_of_eq (Nat.zero_add _)
    | ok values => exact Nat.le_of_eq (Nat.zero_add _)
  | step => exact m.count_path_le 1
  | run budget =>
    obtain ⟨k, _, _, left, _⟩ := m.run_cases budget
    simp only [Machine.respond, visits, left]
    exact m.count_path_le k

/-- Without a restart the byte at index 0 is performed at most once. -/
theorem count_visitsOf_le (m : Machine size) {history : List Request}
    (goesOn : ∀ request ∈ history, request.restarts = false) :
    (m.visitsOf history).count 0 ≤ m.startsLeft := by
  induction history generalizing m with
  | nil => exact Nat.zero_le _
  | cons request rest ih =>
    obtain ⟨first, others⟩ := List.forall_mem_cons.mp goesOn
    have now := m.count_visits_le first
    have later := ih (m.respond request).machine others
    rw [visitsOf, List.count_append]
    omega

end Machine

/-! ## No fault -/

namespace Displaced

variable {size : Nat}

/-- A machine in place steps through any code as it always does. -/
theorem stepIn_inPlace (code : Machine.Code) (m : Machine size) :
    stepIn code (inPlace m) = (inPlace (m.stepIn code).1, .ok (m.stepIn code).2) := by
  cases found : code.byte? m.codePointer with
  | none => simp [stepIn, inPlace, indexIn?, Machine.stepIn, found]
  | some b => simp [stepIn, inPlace, indexIn?, Machine.stepIn, found, isOnRing, performIn]

theorem runFrom_inPlace (code : Machine.Code) (ceiling : Int) (fuel taken : Nat)
    (m : Machine size) :
    runFrom code ceiling fuel taken (inPlace m) =
      (inPlace (Machine.runIn code ceiling fuel taken m).machine,
        .ok (Machine.runIn code ceiling fuel taken m).overrun) := by
  induction fuel generalizing taken m with
  | zero => rfl
  | succ fuel ih =>
    rw [runFrom, Machine.runIn, stepIn_inPlace]
    by_cases ended : code.length ≤ m.codePointer
    · simp only [inPlace, ended, decide_true, Bool.and_self, if_true]
    · by_cases above : ceiling < (m.stepIn code).1.operations
      · simp [inPlace, ended, above]
      · have onward := ih (taken + 1) (m.stepIn code).1
        simp only [inPlace] at onward
        simp [inPlace, ended, above, onward]

/-- A machine in place runs as it always does, and meets no fault. -/
theorem run_inPlace (m : Machine size) (budget : Budget) :
    run (inPlace m) budget = (inPlace (m.run budget).machine, .ok (m.run budget).overrun) := by
  have done := runFrom_inPlace m.indexedCode budget.ceiling budget.allowance 0
    { m with operations := 0 }
  simp only [inPlace] at done
  simp only [run, inPlace, done, Machine.run]

end Displaced

/-! ## All of it -/

namespace Machine

variable {size : Nat}

/-- The ranges of a machine's fields. -/
structure InRange (m : Machine size) : Prop where
  memory : m.memory.toList.length = size ∧ ∀ v ∈ m.memory.toList, v.toNat ≤ 255
  dataPointer : m.dataPointer.val < size
  output : ∀ v ∈ m.output.toList, v.toNat ≤ 255
  input : ∀ v ∈ m.input, v.toNat ≤ 255

theorem inRange (m : Machine size) : m.InRange where
  memory := ⟨m.memory.length_toList, fun v _ => Nat.le_of_lt_succ v.toNat_lt⟩
  dataPointer := m.dataPointer.isLt
  output := fun v _ => Nat.le_of_lt_succ v.toNat_lt
  input := fun v _ => Nat.le_of_lt_succ v.toNat_lt

/-- After any history a machine has its fields within their ranges and consistent, its code pointer
at most one position beyond the longest program since the last restart, and nothing to fear from
steps and runs. A step that performs an instruction leaves the code pointer behind index 0, so that
between restarts the byte there is performed at most once. -/
theorem reachable_in_order (positive : 0 < size) (history : List Request) :
    let start := blank size positive
    let m := start.after history
    m.InRange ∧ m.Consistent ∧
    m.codePointer ≤ start.longestProgram 0 history + 1 ∧
    (∃ moved, (Displaced.inPlace m).step.2 = .ok moved) ∧
    (∀ budget : Budget, ∃ overrun, ((Displaced.inPlace m).run budget).2 = .ok overrun) ∧
    (m.step.2 = true → 1 ≤ m.step.1.codePointer) ∧
    ∀ earlier later : List Request, history = earlier ++ later →
      (∀ request ∈ later, request.restarts = false) →
      ((start.after earlier).visitsOf later).count 0 ≤ 1 := by
  intro start m
  have consistent := consistent_blank positive
  refine ⟨m.inRange, consistent.after history,
    consistent.codePointer_after_le (Nat.zero_le _) history, ?_, ?_, ?_, ?_⟩
  · exact ⟨_, congrArg Prod.snd (Displaced.step_inPlace m)⟩
  · exact fun budget => ⟨_, congrArg Prod.snd (Displaced.run_inPlace m budget)⟩
  · intro performs
    refine codePointer_step_pos ?_
    simpa [step_snd] using performs
  · intro earlier later _ goesOn
    refine Nat.le_trans (count_visitsOf_le _ goesOn) ?_
    unfold startsLeft
    split <;> decide

/-- A machine whose jump went beyond its program, and which a shorter program was loaded into. -/
def shortened : List Request :=
  [.load (.text ['[', '+', '+']), .run (.ofInt 1), .load (.text ['.']), .load (.scalar .integer)]

theorem reachable_in_order_shortened :
    0 < 2 ∧ ((blank 2 Nat.two_pos).after shortened).codePointer = 4 ∧
    (blank 2 Nat.two_pos).longestProgram 0 shortened = 3 ∧
    ((blank 2 Nat.two_pos).after shortened).program = [46] ∧
    ((blank 2 Nat.two_pos).after shortened).Consistent ∧
    ((blank 2 Nat.two_pos).after shortened).codePointer ≤
      (blank 2 Nat.two_pos).longestProgram 0 shortened + 1 := by
  obtain ⟨_, consistent, bound, _⟩ := reachable_in_order Nat.two_pos shortened
  exact ⟨Nat.two_pos, by decide, by decide, by decide, consistent, bound⟩

end Machine

end TapeSwarm
