import Mathlib.Algebra.Ring.Divisibility.Basic
import Mathlib.Data.Int.GCD
import Mathlib.Data.Int.ModEq
import Mathlib.Tactic.Ring
import TapeSwarm.Proofs.Machine.Filler

/-!
# Counting loops

A loop whose body changes the cell by one, shows it, or does nothing, and never leaves it: every
pass moves the cell by the same number, the drift of the body, and the loop ends before the first
pass that finds a zero cell. Cells are bytes, so whether there is such a pass is a question about a
linear congruence modulo 256. The cell may jump over zero, come around and meet it later, or never.

Three things come together here. A stretch without brackets is a block that runs in one way only
(`exists_block`), so that repeating it is an iteration, and the loop stops at the least number of
passes that leave a zero cell (`while_iff`). A byte of the body moves the store by a known amount
(`Shifts`), which adds up over the body and over the passes. And a congruence `v + k * d ≡ 0` has a
solution if the greatest common divisor of `d` and the modulus divides `v`.

Result: `counting_loop_halts_iff`.
-/

namespace TapeSwarm

variable {size : ℕ}

/-- Whether a byte may stand in the body of a counting loop: it changes the cell by one or shows it,
or it is filler. -/
def isCounting (b : UInt8) : Bool :=
  match Instruction.ofByte? b with
  | some .increment | some .decrement | some .emit | none => true
  | some .right | some .left | some .accept | some .opening | some .closing => false

namespace Tape

/-- A tape with brackets around it. -/
def inLoop (body : Tape) : Tape :=
  openByte :: (body ++ [closeByte])

/-- By how much more a tape increments than it decrements. -/
def gain (body : Tape) : ℤ :=
  (body.count Instruction.increment.byte : ℤ) - body.count Instruction.decrement.byte

/-- By how much a pass of a tape moves the cell. -/
def drift (body : Tape) : ℤ :=
  body.gain % 256

/-- How many bytes a tape shows. -/
def shown (body : Tape) : ℕ :=
  body.count Instruction.emit.byte

theorem gain_cons (b : UInt8) (rest : Tape) : gain (b :: rest) = gain [b] + gain rest := by
  simp only [gain, List.count_cons, List.count_nil]
  push_cast
  ring

theorem shown_cons (b : UInt8) (rest : Tape) : shown (b :: rest) = shown [b] + shown rest := by
  simp only [shown, List.count_cons, List.count_nil]
  ring

end Tape

/-! ## Loops around straight lines -/

/-- A stretch without brackets is a block, and a run of it is one action after the other. -/
theorem exists_block (size : ℕ) {body : Tape} (plain : ∀ b ∈ body, isBracket b = false) :
    ∃ block : Block, block.tape = body ∧
      ∀ (s : Store size) (k : ℕ) (t : Store size),
        block.Runs s k t ↔ k = body.length ∧ t = body.foldl Store.act s := by
  induction body with
  | nil => exact ⟨.skip, rfl, fun _ _ _ => Iff.rfl⟩
  | cons b rest ih =>
    obtain ⟨first, others⟩ := List.forall_mem_cons.mp plain
    obtain ⟨block, tape, runs⟩ := ih others
    refine ⟨.act ⟨b, first⟩ block, congrArg (b :: ·) tape, fun s k t => ?_⟩
    constructor
    · rintro ⟨j, rfl, onward⟩
      obtain ⟨rfl, rfl⟩ := (runs _ _ _).mp onward
      exact ⟨rfl, rfl⟩
    · rintro ⟨rfl, rfl⟩
      exact ⟨rest.length, rfl, (runs _ _ _).mpr ⟨rfl, rfl⟩⟩

/-- The numbers of passes after which the cell is zero. -/
def zeroAfter (pass : Store size → Store size) (s : Store size) : Set ℕ :=
  {n | (pass^[n] s).cell = 0}

section Passes

variable {pass : Store size → Store size} {s t : Store size} {k n : ℕ}

theorem isLeast_zeroAfter_zero (zero : s.cell = 0) : IsLeast (zeroAfter pass s) 0 :=
  ⟨zero, fun n _ => n.zero_le⟩

/-- Where the cell is not zero yet, one pass is made and the rest are counted from there. -/
theorem isLeast_zeroAfter_succ (nonzero : s.cell ≠ 0) :
    IsLeast (zeroAfter pass s) (n + 1) ↔ IsLeast (zeroAfter pass (pass s)) n := by
  constructor
  · rintro ⟨zero, least⟩
    refine ⟨zero, fun other zeroThere => ?_⟩
    have below : n + 1 ≤ other + 1 := least zeroThere
    exact Nat.le_of_succ_le_succ below
  · rintro ⟨zero, least⟩
    refine ⟨zero, fun other zeroThere => ?_⟩
    cases other with
    | zero => exact absurd zeroThere nonzero
    | succ other => exact Nat.succ_le_succ (least zeroThere)

/-- A loop whose body runs in one way only stops at the least number of passes that leave a zero
cell, and only if there is one. -/
theorem while_iff {once : Store size → ℕ → Store size → Prop} {cost : ℕ}
    (straight : ∀ s j u, once s j u ↔ j = cost ∧ u = pass s) :
    While once s k t ↔
      ∃ n, IsLeast (zeroAfter pass s) n ∧ k = n * (cost + 1) ∧ t = pass^[n] s := by
  constructor
  · intro passes
    induction passes with
    | done zero => exact ⟨0, isLeast_zeroAfter_zero zero, (Nat.zero_mul _).symm, rfl⟩
    | pass nonzero made again ih =>
      obtain ⟨rfl, rfl⟩ := (straight _ _ _).mp made
      obtain ⟨n, least, rfl, rfl⟩ := ih
      refine ⟨n + 1, (isLeast_zeroAfter_succ nonzero).mpr least, ?_, rfl⟩
      rw [Nat.succ_mul, Nat.add_comm]
  · rintro ⟨n, least, rfl, rfl⟩
    induction n generalizing s with
    | zero =>
      rw [Nat.zero_mul]
      exact .done least.1
    | succ n ih =>
      have nonzero : s.cell ≠ 0 := fun zero => absurd (least.2 zero) (Nat.not_succ_le_zero n)
      have again := ih ((isLeast_zeroAfter_succ nonzero).mp least)
      rw [Nat.succ_mul, Nat.add_comm]
      exact .pass nonzero ((straight _ _ _).mpr ⟨rfl, rfl⟩) again

end Passes

/-! ## What a pass does -/

namespace Store

/-- `Shifts s d n t`: from `s` to `t` the cell has moved by `d`, `n` bytes were shown, and nothing
else has changed. -/
structure Shifts (s : Store size) (d : ℤ) (n : ℕ) (t : Store size) : Prop where
  cell : (t.cell.toNat : ℤ) ≡ s.cell.toNat + d [ZMOD 256]
  pointer : t.pointer = s.pointer
  memory : ∀ i, i ≠ s.pointer → t.memory.get i = s.memory.get i
  output : ∃ written : Array UInt8, t.output = s.output ++ written ∧ written.size = n
  input : t.input = s.input

variable {s t u : Store size} {d e : ℤ} {m n : ℕ}

theorem shifts_refl (s : Store size) : s.Shifts 0 0 s where
  cell := by rw [add_zero]
  pointer := rfl
  memory := fun _ _ => rfl
  output := ⟨#[], Array.append_empty.symm, rfl⟩
  input := rfl

theorem Shifts.trans (first : s.Shifts d m t) (second : t.Shifts e n u) :
    s.Shifts (d + e) (m + n) u where
  cell := by
    rw [← add_assoc]
    exact second.cell.trans (first.cell.add_right e)
  pointer := second.pointer.trans first.pointer
  memory := by
    intro i other
    rw [second.memory i (first.pointer.symm ▸ other), first.memory i other]
  output := by
    obtain ⟨earlier, firstOutput, rfl⟩ := first.output
    obtain ⟨later, secondOutput, rfl⟩ := second.output
    refine ⟨earlier ++ later, ?_, Array.size_append⟩
    rw [secondOutput, firstOutput, Array.append_assoc]
  input := second.input.trans first.input

theorem cell_write (s : Store size) (value : UInt8) : (s.write value).cell = value := by
  have here := s.memory_write value s.pointer
  rwa [if_pos rfl] at here

theorem shifts_write (s : Store size) {value : UInt8}
    (moved : (value.toNat : ℤ) ≡ s.cell.toNat + d [ZMOD 256]) : s.Shifts d 0 (s.write value) where
  cell := by rwa [cell_write]
  pointer := rfl
  memory := by
    intro i other
    rw [memory_write, if_neg other.symm]
  output := ⟨#[], Array.append_empty.symm, rfl⟩
  input := rfl

/-- What a byte of a counting loop does. -/
theorem shifts_act (s : Store size) {b : UInt8} (counting : isCounting b = true) :
    s.Shifts (Tape.gain [b]) (Tape.shown [b]) (s.act b) := by
  cases found : Instruction.ofByte? b with
  | none =>
    have other (i : Instruction) : b ≠ i.byte := by
      rintro rfl
      simp at found
    have idle : s.act b = s := by simp only [act, found]
    simpa [Tape.gain, Tape.shown, other, idle] using s.shifts_refl
  | some instruction =>
    obtain rfl := Instruction.byte_of_ofByte? found
    cases instruction with
    | increment =>
      refine s.shifts_write ?_
      have moved : (s.cell + 1).toNat = (s.cell.toNat + 1) % 256 := UInt8.toNat_add s.cell 1
      show ((s.cell + 1).toNat : ℤ) ≡ s.cell.toNat + 1 [ZMOD 256]
      rw [moved, Int.natCast_mod]
      exact Int.mod_modEq _ _
    | decrement =>
      refine s.shifts_write ?_
      have moved : (s.cell - 1).toNat = (255 + s.cell.toNat) % 256 := UInt8.toNat_sub s.cell 1
      show ((s.cell - 1).toNat : ℤ) ≡ s.cell.toNat + -1 [ZMOD 256]
      have around : (255 : ℤ) ≡ -1 [ZMOD 256] := rfl
      rw [moved, Int.natCast_mod, Nat.cast_add, add_comm (s.cell.toNat : ℤ)]
      exact (Int.mod_modEq _ _).trans (around.add_right _)
    | emit =>
      exact
        { cell := by rfl
          pointer := rfl
          memory := fun _ _ => rfl
          output := ⟨#[s.cell], rfl, rfl⟩
          input := rfl }
    | right | left | accept | opening | closing => contradiction

/-- What a straight line of counting bytes does. -/
theorem shifts_foldl {body : Tape} (counting : ∀ b ∈ body, isCounting b = true) (s : Store size) :
    s.Shifts body.gain body.shown (body.foldl act s) := by
  induction body generalizing s with
  | nil => exact s.shifts_refl
  | cons b rest ih =>
    obtain ⟨first, others⟩ := List.forall_mem_cons.mp counting
    rw [Tape.gain_cons, Tape.shown_cons]
    exact (s.shifts_act first).trans (ih others (s.act b))

/-- What any number of passes does that shift alike. -/
theorem shifts_iterate {pass : Store size → Store size} {d : ℤ} {n : ℕ}
    (once : ∀ s : Store size, s.Shifts d n (pass s)) (k : ℕ) (s : Store size) :
    s.Shifts (k * d) (k * n) (pass^[k] s) := by
  induction k generalizing s with
  | zero => simpa using s.shifts_refl
  | succ k ih =>
    have both := (once s).trans (ih (pass s))
    rwa [add_comm, add_comm n, ← Nat.succ_mul, ← add_one_mul, ← Nat.cast_succ] at both

/-- A cell is zero if its value is so modulo 256. -/
theorem eq_zero_iff_modEq (value : UInt8) : value = 0 ↔ (value.toNat : ℤ) ≡ 0 [ZMOD 256] := by
  rw [Int.modEq_zero_iff_dvd, ← UInt8.toNat_inj]
  constructor
  · intro zero
    rw [zero]
    exact dvd_zero 256
  · intro divides
    exact Nat.eq_zero_of_dvd_of_lt (Int.natCast_dvd_natCast.mp divides) value.toNat_lt

/-- The cell is zero after those numbers of passes that solve a congruence. -/
theorem zeroAfter_eq {body : Tape} (counting : ∀ b ∈ body, isCounting b = true) (s : Store size) :
    zeroAfter (body.foldl act) s =
      {k : ℕ | (s.cell.toNat : ℤ) + k * body.drift ≡ 0 [ZMOD 256]} := by
  ext k
  have moved := (shifts_iterate (shifts_foldl counting) k s).cell
  have reduced : (s.cell.toNat : ℤ) + k * body.drift ≡ s.cell.toNat + k * body.gain [ZMOD 256] :=
    ((Int.mod_modEq _ _).mul_left k).add_left _
  have same := moved.trans reduced.symm
  show (((body.foldl act)^[k] s).cell = 0) ↔ _
  rw [eq_zero_iff_modEq]
  exact ⟨same.symm.trans, same.trans⟩

end Store

/-! ## When there is a last pass -/

/-- Some multiple of `d` leads from `v` to a multiple of 256 exactly if `v` is a multiple of what
`d` and 256 have in common. -/
theorem exists_modEq_zero_iff (v : ℕ) (d : ℤ) :
    (∃ k : ℕ, (v : ℤ) + k * d ≡ 0 [ZMOD 256]) ↔ Int.gcd d 256 ∣ v := by
  constructor
  · rintro ⟨k, zero⟩
    have whole : (Int.gcd d 256 : ℤ) ∣ v + k * d :=
      (Int.gcd_dvd_right d 256).trans (Int.modEq_zero_iff_dvd.mp zero)
    have passes : (Int.gcd d 256 : ℤ) ∣ k * d := (Int.gcd_dvd_left d 256).mul_left k
    exact Int.natCast_dvd_natCast.mp ((dvd_add_left passes).mp whole)
  · intro divides
    obtain ⟨x, y, combined⟩ := Int.gcd_dvd_iff.mp divides
    -- `-x` passes would do, and so do as many as it leaves modulo 256
    have around : ((-x % 256).toNat : ℤ) = -x % 256 := Int.toNat_of_nonneg (Int.emod_nonneg _ nofun)
    refine ⟨(-x % 256).toNat, ?_⟩
    rw [around]
    calc
      (v : ℤ) + -x % 256 * d ≡ v + -x * d [ZMOD 256] :=
        ((Int.mod_modEq _ _).mul_right d).add_left _
      _ = 256 * y := by
        rw [combined]
        ring
      _ ≡ 0 [ZMOD 256] := Int.modEq_zero_iff_dvd.mpr (dvd_mul_right 256 y)

/-! ## Runs -/

theorem isBracket_of_isCounting {b : UInt8} (counting : isCounting b = true) :
    isBracket b = false := by
  cases bracket : isBracket b with
  | false => rfl
  | true =>
    simp only [isBracket, Bool.or_eq_true, decide_eq_true_eq] at bracket
    cases bracket with
    | inl opening => simp [isCounting, opening] at counting
    | inr closing => simp [isCounting, closing] at counting

/-- A loop around a body without brackets, as an outline: what it costs and where it leads is
decided by the number of its passes. -/
theorem exists_loop (size : ℕ) {body : Tape} (plain : ∀ b ∈ body, isBracket b = false) :
    ∃ outline : Outline, outline.tape = body.inLoop ∧
      ∀ (s : Store size) (k : ℕ) (t : Store size), outline.Runs s k t ↔
        ∃ n, IsLeast (zeroAfter (body.foldl Store.act) s) n ∧
          k = 1 + n * (body.length + 1) ∧ t = (body.foldl Store.act)^[n] s := by
  obtain ⟨block, written, straight⟩ := exists_block size plain
  refine ⟨.last (.loop block .skip), ?_, fun s k t => ?_⟩
  · rw [Tape.inLoop, ← written]
    rfl
  · constructor
    · rintro ⟨i, u, j, rfl, passes, rfl, rfl⟩
      obtain ⟨n, least, rfl, rfl⟩ := (while_iff straight).mp passes
      exact ⟨n, least, rfl, rfl⟩
    · rintro ⟨n, least, rfl, rfl⟩
      exact ⟨_, _, 0, rfl, (while_iff straight).mpr ⟨n, least, rfl, rfl⟩, rfl, rfl⟩

namespace Machine

/-- A machine that is led out of its tape runs out of it within any budget that pays for the way,
and within no smaller one. -/
theorem At.run_of_leads {tape : Tape} {table : Brackets} {i cost p : ℕ} {s t : Store size}
    {m : Machine size} (here : m.At tape table i s) (leads : Leads tape table i s cost p t)
    (beyond : tape.length ≤ p) (budget : ℤ) :
    let last := (m.run (.ofInt budget)).machine
    (last.isHalted = true ↔ cost ≤ budget.toNat) ∧
      (cost ≤ budget.toNat → last.operations = cost ∧ last.store = t) := by
  obtain ⟨performs, there⟩ := leads m here
  have finished : (m.steps cost).isHalted = true := there.isHalted_iff.mpr beyond
  rw [run_ofInt]
  refine ⟨⟨fun ended => ?_, fun enough => isHalted_of_le enough finished⟩, fun enough => ?_⟩
  · refine Nat.le_of_not_lt fun early => ?_
    have going := performed_eq_self_iff.mp performs budget.toNat early
    exact absurd (going.symm.trans ended) Bool.false_ne_true
  · obtain ⟨status, later⟩ := steps_of_le enough finished
    refine ⟨(performed_eq_of_le enough finished).trans performs, ?_⟩
    rw [later]
    exact there.store

/-- A loop of counting bytes, performed from the start on any store, ends within some budget exactly
if some number of passes takes the cell to zero modulo 256, that is, if the greatest common divisor
of the drift and 256 divides the cell. It makes the least such number of passes, performs the
opening bracket once and the body and the closing bracket in each pass, and ends within just the
budgets that pay for all of them. It leaves a zero cell, all other cells as they were, and in the
output what each pass has shown. -/
theorem counting_loop_halts_iff (m : Machine size) (start : m.codePointer = 0) {body : Tape}
    (counting : ∀ b ∈ body, isCounting b = true) :
    let v := m.cell.toNat
    let d := body.drift
    let loop := m.load body.inLoop
    ((∃ budget : ℤ, (loop.run (.ofInt budget)).machine.isHalted = true) ↔
        ∃ k : ℕ, (v : ℤ) + k * d ≡ 0 [ZMOD 256]) ∧
      ((∃ k : ℕ, (v : ℤ) + k * d ≡ 0 [ZMOD 256]) ↔ Int.gcd d 256 ∣ v) ∧
      ∀ k : ℕ, IsLeast {k : ℕ | (v : ℤ) + k * d ≡ 0 [ZMOD 256]} k →
        let cost := 1 + k * (body.length + 1)
        ∀ budget : ℤ,
          let last := (loop.run (.ofInt budget)).machine
          (last.isHalted = true ↔ (cost : ℤ) ≤ budget) ∧
            ((cost : ℤ) ≤ budget →
              last.operations = cost ∧ last.cell = 0 ∧ last.dataPointer = m.dataPointer ∧
              (∀ i, i ≠ m.dataPointer → last.memory.get i = m.memory.get i) ∧
              last.input = m.input ∧
              ∃ written : Array UInt8, last.output = m.output ++ written ∧
                written.size = k * body.shown) := by
  intro v d loop
  obtain ⟨outline, written, runs⟩ :=
    exists_loop size fun b member => isBracket_of_isCounting (counting b member)
  have here : loop.At outline.tape (Brackets.ofTape outline.tape) 0 m.store := by
    rw [written]
    exact ⟨rfl, rfl, start, rfl⟩
  have placed := placed_outline outline
  have solutions : zeroAfter (body.foldl Store.act) m.store =
      {k : ℕ | (v : ℤ) + k * d ≡ 0 [ZMOD 256]} := Store.zeroAfter_eq counting m.store
  have way : ∀ {k : ℕ}, IsLeast {k : ℕ | (v : ℤ) + k * d ≡ 0 [ZMOD 256]} k →
      ∃ p, outline.tape.length ≤ p ∧
        Leads outline.tape (Brackets.ofTape outline.tape) 0 m.store (1 + k * (body.length + 1)) p
          ((body.foldl Store.act)^[k] m.store) := by
    intro k least
    rw [← solutions] at least
    exact outline.leads_of_runs placed ((runs _ _ _).mpr ⟨k, least, rfl, rfl⟩)
  refine ⟨?ends, exists_modEq_zero_iff v d, ?cost⟩
  case ends =>
    rw [exists_run_isHalted_iff]
    constructor
    · rintro ⟨n, finished⟩
      obtain ⟨cost, last, ran⟩ := outline.runs_of_leaves placed ⟨loop, here, finished⟩
      obtain ⟨k, least, -, -⟩ := (runs _ _ _).mp ran
      rw [solutions] at least
      exact ⟨k, least.1⟩
    · intro solvable
      obtain ⟨p, beyond, leads⟩ := way (Nat.isLeast_find solvable)
      exact ⟨_, (leads loop here).2.isHalted_iff.mpr beyond⟩
  case cost =>
    intro k least cost budget last
    obtain ⟨p, beyond, leads⟩ := way least
    obtain ⟨ends, left⟩ := here.run_of_leads leads beyond budget
    have paid : (cost : ℤ) ≤ budget ↔ cost ≤ budget.toNat := by
      have some : 0 < cost := Nat.add_pos_left Nat.one_pos _
      omega
    rw [paid]
    refine ⟨ends, fun enough => ?_⟩
    obtain ⟨operations, store⟩ := left enough
    have shifts := Store.shifts_iterate (Store.shifts_foldl counting) k m.store
    have zero : ((body.foldl Store.act)^[k] m.store).cell = 0 := by
      rw [← solutions] at least
      exact least.1
    rw [← store] at shifts zero
    exact ⟨operations, zero, shifts.pointer, shifts.memory, shifts.input, shifts.output⟩

/-- The body `+++x.`, which takes the cell by threes. -/
def byThrees : Tape := [43, 43, 43, 120, 46]

/-- A cell that jumps over zero when it first comes around, and meets it the second time; and one
that never meets it, since it is odd and changes by twos. -/
theorem counting_loop_byThrees :
    let m := (blank 2 Nat.two_pos).write 251
    let odd := (blank 2 Nat.two_pos).write 7
    m.codePointer = 0 ∧ (∀ b ∈ byThrees, isCounting b = true) ∧
    IsLeast {k : ℕ | (m.cell.toNat : ℤ) + k * byThrees.drift ≡ 0 [ZMOD 256]} 87 ∧
    ((m.load byThrees.inLoop).run (.ofInt 522)).machine.isHalted = false ∧
    ((m.load byThrees.inLoop).run (.ofInt 600)).machine.operations = 523 ∧
    ((m.load byThrees.inLoop).run (.ofInt 600)).machine.cell = 0 ∧
    ((m.load byThrees.inLoop).run (.ofInt 600)).machine.output.size = 87 ∧
    odd.codePointer = 0 ∧ (∀ b ∈ [45, 45], isCounting b = true) ∧
    ∀ budget : ℤ,
      ((odd.load (Tape.inLoop [45, 45])).run (.ofInt budget)).machine.isHalted = false := by
  intro m odd
  have counting : ∀ b ∈ byThrees, isCounting b = true := List.all_eq_true.mp rfl
  have countingDown : ∀ b ∈ [45, 45], isCounting b = true := List.all_eq_true.mp rfl
  have least : IsLeast {k : ℕ | (m.cell.toNat : ℤ) + k * byThrees.drift ≡ 0 [ZMOD 256]} 87 := by
    refine ⟨by decide, fun k zero => ?_⟩
    have solved : (251 + k * 3 : ℤ) % 256 = 0 := zero
    omega
  have loop := (counting_loop_halts_iff m rfl counting).2.2 87 least
  have early : ((m.load byThrees.inLoop).run (.ofInt 522)).machine.isHalted = false := by
    rw [← Bool.not_eq_true, (loop 522).1]
    decide
  obtain ⟨operations, zero, -, -, -, written, output, size⟩ := (loop 600).2 (by decide)
  refine ⟨rfl, counting, least, early, operations, zero, ?_, rfl, countingDown, fun budget => ?_⟩
  · rw [output, Array.size_append, size]
    rfl
  · obtain ⟨ends, divides, -⟩ := counting_loop_halts_iff odd rfl countingDown
    rw [← Bool.not_eq_true]
    intro finished
    have even : Int.gcd (Tape.drift [45, 45]) 256 ∣ 7 := divides.mp (ends.mp ⟨budget, finished⟩)
    exact absurd even (by decide)

end Machine

end TapeSwarm
