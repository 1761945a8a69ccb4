import TapeSwarm.Proofs.Brackets.Code
import TapeSwarm.Proofs.Machine.Reachable
import TapeSwarm.Proofs.Outline.Meaning

/-!
# Filler

Filler does not affect what a tape without stray brackets computes.

A machine on the tape and a machine on its code keep step, if the second one rests while the first
one performs filler: their stores are the same, and the second one is at the rank of the place of
the first (`Machine.At.steps_code`). Jumps keep this up, since partners correspond by ranks and the
ends of the two programs do. It takes a partner for every closing bracket: one without goes back to
index 1, and of what the tape has there filler is not left out (`filler_seen_by_stray`).

The machine on the code leaves its program only if the other one does: between two instructions the
tape has no more filler than it has bytes (`leads_past_filler`), so that each step of the one is
some steps of the other.

Result: `steps_skip_filler`.
-/

namespace TapeSwarm

namespace Machine

variable {size : Nat}

/-- How many of the bytes that are performed in `n` steps are instructions, not filler. -/
def instructions (m : Machine size) (n : Nat) : Nat :=
  (m.path n).countP fun i => (m.program[i]?).any isInstruction

theorem instructions_of_isHalted {m : Machine size} (finished : m.isHalted = true) (n : Nat) :
    m.instructions n = 0 := by
  cases n with
  | zero => rfl
  | succ n => rw [instructions, path, if_pos finished, List.countP_nil]

theorem instructions_succ {m : Machine size} {b : UInt8}
    (found : m.program[m.codePointer]? = some b) (n : Nat) :
    m.instructions (n + 1) =
      (if isInstruction b then 1 else 0) + m.step.1.instructions n := by
  have going := not_isHalted_iff.mpr (lt_length_of_getElem? found)
  rw [instructions, path, going, if_neg Bool.false_ne_true, List.countP_cons, found, instructions,
    program_step, Option.any_some, Nat.add_comm]

/-- The machine has a tape and the tape's own table of brackets, and stands at a position with a
store. -/
abbrev On (tape : Tape) (i : Nat) (s : Store size) (m : Machine size) : Prop :=
  m.At tape (Brackets.ofTape tape) i s

variable {tape : Tape} {i k : Nat} {s : Store size}

/-! ## One step -/

theorem At.of_isHalted {table : Brackets} {m : Machine size} (here : m.At tape table i s)
    (finished : m.isHalted = true) : m.step.1.At tape table i s := by
  rw [step_of_halted finished]
  exact ⟨here.program, here.brackets, here.codePointer, here.store⟩

/-- Filler moves a machine on and leaves its store as it is. -/
theorem leads_of_filler {table : Brackets} {b : UInt8} (found : tape[i]? = some b)
    (filler : isInstruction b = false) : Leads tape table i s 1 (i + 1) s := by
  have nothing : s.act b = s := by
    have none : Instruction.ofByte? b = none := by simpa [isInstruction] using filler
    simp only [Store.act, none]
  have onward : Leads tape table i s 1 (i + 1) (s.act b) :=
    leads_of_plain (isBracket_of_filler filler) found
  rwa [nothing] at onward

/-- What an instruction does on a tape it does on the tape's code, by ranks. -/
theorem leads_code (matched : tape.NoStray) {b : UInt8} (found : tape[i]? = some b)
    (instruction : isInstruction b = true) (s : Store size) :
    ∃ p t, Leads tape (Brackets.ofTape tape) i s 1 p t ∧
      Leads tape.code (Brackets.ofTape tape.code) (tape.rank i) s 1 (tape.rank p) t := by
  have kept := Tape.getElem?_code_rank found instruction
  have next := Tape.rank_succ_of_instruction found instruction
  have partners := Brackets.partner?_code ⟨b, found, instruction⟩
  rcases plain_or_bracket b with plain | rfl | rfl
  · refine ⟨i + 1, s.act b, leads_of_plain plain found, ?_⟩
    rw [next]
    exact leads_of_plain plain kept
  · by_cases zero : s.cell = 0
    · refine ⟨_, s, leads_of_open_zero _ found zero, ?_⟩
      have jump := leads_of_open_zero (Brackets.ofTape tape.code) kept zero
      rw [partners] at jump
      -- a gate goes behind the end, which the two programs have at different places
      cases paired : (Brackets.ofTape tape).partner? i with
      | none =>
        rw [paired] at jump
        rwa [Option.getD_none, Tape.rank_length_add]
      | some j =>
        obtain ⟨c, there, bracket⟩ := Brackets.hasInstruction_of_partner? paired
        rw [paired] at jump
        rwa [Option.getD_some, Tape.rank_succ_of_instruction there bracket]
    · refine ⟨i + 1, s, leads_of_open_nonzero _ found zero, ?_⟩
      rw [next]
      exact leads_of_open_nonzero _ kept zero
  · by_cases zero : s.cell = 0
    · refine ⟨i + 1, s, leads_of_close_zero found zero, ?_⟩
      rw [next]
      exact leads_of_close_zero kept zero
    · obtain ⟨j, paired⟩ := Brackets.exists_partner?_of_close matched found
      obtain ⟨c, there, bracket⟩ := Brackets.hasInstruction_of_partner? paired
      refine ⟨j + 1, s, leads_of_close_nonzero found zero paired, ?_⟩
      rw [paired] at partners
      rw [Tape.rank_succ_of_instruction there bracket]
      exact leads_of_close_nonzero kept zero partners

/-! ## Many steps -/

/-- Two machines keep step, if the one on the code rests while the other one performs filler. -/
theorem At.steps_code (matched : tape.NoStray) {m bare : Machine size} (here : m.On tape i s)
    (there : bare.On tape.code (tape.rank i) s) (n : Nat) :
    ∃ p t, (m.steps n).On tape p t ∧
      (bare.steps (m.instructions n)).On tape.code (tape.rank p) t := by
  induction n generalizing m bare i s with
  | zero => exact ⟨i, s, here, there⟩
  | succ n ih =>
    cases finished : m.isHalted with
    | true =>
      have still := ih (here.of_isHalted finished) there
      have after : m.step.1.isHalted = true := isHalted_steps finished 1
      rw [instructions_of_isHalted after] at still
      rw [instructions_of_isHalted finished]
      exact still
    | false =>
      obtain ⟨b, found⟩ := getElem?_of_not_isHalted finished
      rw [instructions_succ found]
      rw [here.program, here.codePointer] at found
      cases kept : isInstruction b with
      | false =>
        obtain ⟨_, moved⟩ := leads_of_filler found kept m here
        rw [← Tape.rank_succ_of_filler found kept] at there
        rw [if_neg Bool.false_ne_true, Nat.zero_add]
        exact ih moved there
      | true =>
        obtain ⟨p, t, whole, part⟩ := leads_code matched found kept s
        rw [if_pos rfl, steps_add bare]
        exact ih (whole m here).2 (part bare there).2

/-! ## Ends -/

/-- A machine passes filler until it comes to an instruction or to the end of its tape. -/
theorem leads_past_filler (tape : Tape) (i : Nat) (s : Store size) :
    ∃ k p, Leads tape (Brackets.ofTape tape) i s k p s ∧ tape.rank p = tape.rank i ∧
      (tape.length ≤ p ∨ tape.HasInstruction p) := by
  induction left : tape.length - i generalizing i with
  | zero => exact ⟨0, i, leads_zero, rfl, .inl (Nat.le_of_sub_eq_zero left)⟩
  | succ left ih =>
    have inside : i < tape.length := by omega
    have found := List.getElem?_eq_getElem inside
    cases kept : isInstruction tape[i] with
    | true => exact ⟨0, i, leads_zero, rfl, .inr ⟨_, found, kept⟩⟩
    | false =>
      obtain ⟨k, p, onward, same, stop⟩ := ih (i + 1) (by omega)
      rw [Tape.rank_succ_of_filler found kept] at same
      exact ⟨1 + k, p, (leads_of_filler found kept).trans onward, same, stop⟩

/-- Where the code is left, so is the tape. -/
theorem leads_out_of_code (matched : tape.NoStray)
    (leaves : Leaves tape.code (Brackets.ofTape tape.code) (tape.rank i) s k) :
    ∃ n p t, tape.length ≤ p ∧ Leads tape (Brackets.ofTape tape) i s n p t := by
  induction k generalizing i s with
  | zero =>
    obtain ⟨j, p, pass, same, beyond | ⟨b, found, instruction⟩⟩ := leads_past_filler tape i s
    · exact ⟨j, p, s, beyond, pass⟩
    · -- an instruction has a place in the code, which ends before the rank of this one
      obtain ⟨m, here, finished⟩ := leaves
      have ended := here.isHalted_iff.mp finished
      have kept := Tape.getElem?_code_rank found instruction
      rw [same] at kept
      exact absurd (List.getElem?_eq_some_iff.mp kept).1 (Nat.not_lt_of_le ended)
  | succ k ih =>
    obtain ⟨j, p, pass, same, beyond | ⟨b, found, instruction⟩⟩ := leads_past_filler tape i s
    · exact ⟨j, p, s, beyond, pass⟩
    · obtain ⟨q, t, whole, part⟩ := leads_code matched found instruction s
      rw [same] at part
      obtain ⟨rest, less, onward⟩ := part.leaves leaves
      obtain rfl : k = rest := by omega
      obtain ⟨n, p, u, beyond, leads⟩ := ih onward
      exact ⟨_, p, u, beyond, (pass.trans whole).trans leads⟩

/-- Some run ends beyond the program exactly if some number of steps does. -/
theorem exists_run_isHalted_iff (m : Machine size) :
    (∃ budget : Int, (m.run (.ofInt budget)).machine.isHalted = true) ↔
      ∃ n, (m.steps n).isHalted = true := by
  constructor
  · rintro ⟨budget, finished⟩
    rw [run_ofInt] at finished
    exact ⟨budget.toNat, finished⟩
  · rintro ⟨n, finished⟩
    refine ⟨n, ?_⟩
    rw [run_ofInt]
    exact finished

/-- On a tape without stray brackets a machine does what it does on the tape's code. After any
number of steps on the tape, as many steps on the code as instructions were performed lead to the
same memory, data pointer, output and input, and beyond the end of the code if the tape has been
left. Some run leaves the tape if and only if some run leaves the code. -/
theorem steps_skip_filler (m : Machine size) (start : m.codePointer = 0) {tape : Tape}
    (matched : tape.NoStray) :
    (∀ n,
      let whole := (m.load tape).steps n
      let bare := (m.load tape.code).steps ((m.load tape).instructions n)
      bare.store = whole.store ∧ (whole.isHalted = true → bare.isHalted = true)) ∧
    ((∃ budget : Int, ((m.load tape).run (.ofInt budget)).machine.isHalted = true) ↔
      ∃ budget : Int, ((m.load tape.code).run (.ofInt budget)).machine.isHalted = true) := by
  have here : (m.load tape).On tape 0 m.store := ⟨rfl, rfl, start, rfl⟩
  have there : (m.load tape.code).On tape.code (tape.rank 0) m.store := by
    rw [Tape.rank_zero]
    exact ⟨rfl, rfl, start, rfl⟩
  have follow : ∀ n,
      ((m.load tape.code).steps ((m.load tape).instructions n)).store =
          ((m.load tape).steps n).store ∧
        (((m.load tape).steps n).isHalted = true →
          ((m.load tape.code).steps ((m.load tape).instructions n)).isHalted = true) := by
    intro n
    obtain ⟨p, t, whole, bare⟩ := here.steps_code matched there n
    refine ⟨bare.store.trans whole.store.symm, fun finished => ?_⟩
    obtain ⟨more, rfl⟩ := Nat.exists_eq_add_of_le (whole.isHalted_iff.mp finished)
    rw [bare.isHalted_iff, Tape.rank_length_add]
    exact Nat.le_add_right _ more
  refine ⟨follow, ?_⟩
  rw [exists_run_isHalted_iff, exists_run_isHalted_iff]
  constructor
  · rintro ⟨n, finished⟩
    exact ⟨_, (follow n).2 finished⟩
  · rintro ⟨k, finished⟩
    obtain ⟨n, p, t, beyond, leads⟩ := leads_out_of_code matched ⟨_, there, finished⟩
    exact ⟨n, (leads _ here).2.isHalted_iff.mpr beyond⟩

/-- `a+[b>+<-]c[d`, which leaves by its last bracket, without `d`. -/
def laced : Tape := [97, 43, 91, 98, 62, 43, 60, 45, 93, 99, 91, 100]

theorem steps_skip_laced :
    (blank 2 Nat.two_pos).codePointer = 0 ∧ laced.NoStray ∧
    ((blank 2 Nat.two_pos).load laced).instructions 11 = 8 ∧
    (((blank 2 Nat.two_pos).load laced).steps 11).isHalted = true ∧
    (((blank 2 Nat.two_pos).load laced.code).steps 8).isHalted = true ∧
    (((blank 2 Nat.two_pos).load laced.code).steps 8).store =
      (((blank 2 Nat.two_pos).load laced).steps 11).store := by
  have matched : laced.NoStray := by decide
  have finished : (((blank 2 Nat.two_pos).load laced).steps 11).isHalted = true := by decide
  obtain ⟨same, both⟩ := (steps_skip_filler (blank 2 Nat.two_pos) rfl matched).1 11
  exact ⟨rfl, matched, by decide, finished, both finished, same⟩

/-- `x+]`: a stray bracket goes back to index 1, where the tape has its only instruction and the
code has the bracket. -/
theorem filler_seen_by_stray :
    ¬ Tape.NoStray [120, 43, 93] ∧
    ((blank 2 Nat.two_pos).load [120, 43, 93]).instructions 4 = 3 ∧
    (((blank 2 Nat.two_pos).load [120, 43, 93]).steps 4).cell = 2 ∧
    (((blank 2 Nat.two_pos).load (Tape.code [120, 43, 93])).steps 3).cell = 1 := by
  decide

end Machine

end TapeSwarm
