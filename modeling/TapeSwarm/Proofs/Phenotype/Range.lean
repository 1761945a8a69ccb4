import Mathlib.Algebra.Order.Field.Rat
import Mathlib.Order.Interval.Set.Defs
import Mathlib.Tactic.NormNum
import TapeSwarm.Phenotype.Genotype

/-!
# The range of the measures

A genotype is meant to consist of parts of one. With measures taken in rationals, seven of the eight
are: a count over the number of things counted (`portion_mem`), a difference of two counts over
their total (`balance_mem`), a value that is clamped (`clamp_mem`), or a fraction of four digits.

The complexity is none of these. It is the number of instructions in hundreds, not clamped, and a
tape of more than a hundred instructions is beyond one (`complexity_beyond_unit`).

A quotient of rationals by zero is zero, so that a value between the bounds could still come from
one. Division is therefore a parameter (`divideOr`): what it answers for the divisor zero does not
matter to any genotype.

Result: `measures_within_unit`.
-/

namespace TapeSwarm.Genotype

open Scale

/-! ## Scales -/

/-- Division with an answer of its own for the divisor zero. -/
def divideOr (undefined : ℚ → ℚ) (a b : ℚ) : ℚ :=
  if b = 0 then undefined a else a / b

/-- The genotype of a tape where quotients by zero are whatever they are said to be. -/
def ofTapeOr (undefined : ℚ → ℚ) (tape : Tape) : Genotype ℚ :=
  letI : Div ℚ := ⟨divideOr undefined⟩
  ofTape tape

theorem divideOr_of_ne (undefined : ℚ → ℚ) {a b : ℚ} (ne : b ≠ 0) :
    divideOr undefined a b = a / b :=
  if_neg ne

theorem portion_eq {lo hi : Int} (span : lo < hi) (value : Int) :
    (portion value lo hi : ℚ) = (value - lo) / (hi - lo) := by
  have ne : ¬ (hi : ℚ) = lo := by exact_mod_cast span.ne'
  simp [portion, rescale, ofInt, ne]

/-- A scale checks its span before it divides by it. -/
theorem portion_divideOr (undefined : ℚ → ℚ) (value lo hi : Int) :
    (letI : Div ℚ := ⟨divideOr undefined⟩; portion value lo hi : ℚ) = portion value lo hi := by
  by_cases empty : (ofInt hi : ℚ) = ofInt lo
  · simp [portion, rescale, empty]
  · have span : (ofInt hi : ℚ) - ofInt lo ≠ 0 := sub_ne_zero.mpr empty
    have divided (a : ℚ) := divideOr_of_ne undefined (a := a) span
    simp only [portion, rescale, beq_iff_eq, if_neg empty]
    exact congrArg _ (divided _)

theorem portion_mem {value lo hi : Int} (span : lo < hi) (atLeast : lo ≤ value)
    (atMost : value ≤ hi) : (portion value lo hi : ℚ) ∈ Set.Icc 0 1 := by
  have positive : (0 : ℚ) < hi - lo := by exact_mod_cast Int.sub_pos.mpr span
  rw [portion_eq span]
  refine ⟨div_nonneg ?_ positive.le, (div_le_one₀ positive).mpr ?_⟩
  · exact_mod_cast Int.sub_nonneg.mpr atLeast
  · exact_mod_cast Int.sub_le_sub_right atMost lo

theorem clamp_eq (value lo hi : ℚ) : clamp value lo hi = max lo (min value hi) := by
  rw [min_def_lt, max_def_lt]
  rfl

theorem clamp_mem (value : ℚ) {lo hi : ℚ} (order : lo ≤ hi) :
    clamp value lo hi ∈ Set.Icc lo hi := by
  rw [clamp_eq]
  exact ⟨le_max_left _ _, max_le order (min_le_right _ _)⟩

/-! ## Counts -/

theorem byte_injective {i j : Instruction} (same : i.byte = j.byte) : i = j := by
  have read := congrArg Instruction.ofByte? same
  rwa [Instruction.ofByte?_byte, Instruction.ofByte?_byte, Option.some.injEq] at read

theorem uses_le_length (code : Tape) (i : Instruction) : uses code i ≤ code.length :=
  List.count_le_length

/-- Two instructions do not share a place. -/
theorem uses_add_uses_le (code : Tape) {i j : Instruction} (differ : i ≠ j) :
    uses code i + uses code j ≤ code.length := by
  have others : uses code j ≤ code.countP fun b => ¬ (b == i.byte) := by
    refine List.countP_mono_left fun b _ isJ => ?_
    rw [beq_iff_eq] at isJ
    have other : ¬ b = i.byte := fun isI => differ (byte_injective (isI.symm.trans isJ))
    simpa using other
  calc
    uses code i + uses code j ≤ uses code i + code.countP fun b => ¬ (b == i.byte) :=
      Nat.add_le_add_left others _
    _ = code.length := (List.length_eq_countP_add_countP _).symm

/-- A difference of two counts is within any total that neither of them is beyond. -/
theorem balance_mem {code : Tape} {plus minus : Instruction} {total : Nat} (positive : 0 < total)
    (plusMost : uses code plus ≤ total) (minusMost : uses code minus ≤ total) :
    (balance code plus minus total : ℚ) ∈ Set.Icc 0 1 :=
  portion_mem (by omega) (by omega) (by omega)

theorem ofCodes_mem (codes : List Nat) : Signature.ofCodes ℚ codes ∈ Set.Icc (0 : ℚ) 1 := by
  have few : Signature.digits codes < 10000 := Nat.mod_lt _ (by decide)
  refine ⟨div_nonneg (Int.cast_nonneg (Int.natCast_nonneg _)) (by decide), ?_⟩
  refine (div_le_one₀ (by decide)).mpr (Int.cast_le.mpr ?_)
  omega

/-! ## Genotypes -/

/-- The measures other than the complexity are parts of one. -/
structure WithinUnit (g : Genotype ℚ) : Prop where
  movement : g.movement ∈ Set.Icc 0 1
  operation : g.operation ∈ Set.Icc 0 1
  loop : g.loop ∈ Set.Icc 0 1
  exchange : g.exchange ∈ Set.Icc 0 1
  arrangement : g.arrangement ∈ Set.Icc 0 1
  rhythm : g.rhythm ∈ Set.Icc 0 1
  signature : g.signature ∈ Set.Icc 0 1

theorem zero_mem : (ofInt 0 : ℚ) ∈ Set.Icc 0 1 :=
  Set.left_mem_Icc.mpr zero_le_one

theorem half_mem : (0.5 : ℚ) ∈ Set.Icc 0 1 := by
  norm_num

theorem withinUnit_inert : (inert : Genotype ℚ).WithinUnit where
  movement := half_mem
  operation := half_mem
  loop := zero_mem
  exchange := zero_mem
  arrangement := half_mem
  rhythm := half_mem
  signature := zero_mem

theorem withinUnit_ofCode {code : Tape} (nonempty : 0 < code.length) :
    (ofCode code : Genotype ℚ).WithinUnit where
  movement := balance_mem nonempty (uses_le_length _ _) (uses_le_length _ _)
  operation := balance_mem nonempty (uses_le_length _ _) (uses_le_length _ _)
  loop := by
    -- no byte is counted for both brackets
    have brackets := uses_add_uses_le code (i := .opening) (j := .closing) (by decide)
    exact portion_mem (by omega) (by omega) (by omega)
  exchange := by
    show ite _ _ _ ∈ Set.Icc (0 : ℚ) 1
    split
    · exact half_mem
    · -- the total is no length here, but the sum of the two counts
      exact balance_mem (by omega) (by omega) (by omega)
  arrangement := clamp_mem _ zero_le_one
  rhythm := by
    show ite _ _ _ ∈ Set.Icc (0 : ℚ) 1
    split
    · exact half_mem
    · exact clamp_mem _ zero_le_one
  signature := ofCodes_mem _

theorem arrangementOf_divideOr (undefined : ℚ → ℚ) {code : Tape} (nonempty : 0 < code.length) :
    (letI : Div ℚ := ⟨divideOr undefined⟩; arrangementOf code : ℚ) = arrangementOf code := by
  have length : (ofInt code.length : ℚ) ≠ 0 := Int.cast_ne_zero.mpr (by omega)
  have divided : (letI : Div ℚ := ⟨divideOr undefined⟩;
      ofInt (repeats code) / ofInt code.length : ℚ) = ofInt (repeats code) / ofInt code.length :=
    divideOr_of_ne undefined length
  simp only [arrangementOf, divided]

theorem ofCodes_divideOr (undefined : ℚ → ℚ) (codes : List Nat) :
    (letI : Div ℚ := ⟨divideOr undefined⟩; Signature.ofCodes ℚ codes) =
      Signature.ofCodes ℚ codes := by
  have constant : (ofInt 10000 : ℚ) ≠ 0 := Int.cast_ne_zero.mpr (by decide)
  unfold Signature.ofCodes
  exact divideOr_of_ne undefined constant

/-- Most measures divide in scales only. The divisors of the two others are a positive length and a
constant. -/
theorem ofCode_divideOr (undefined : ℚ → ℚ) {code : Tape} (nonempty : 0 < code.length) :
    (letI : Div ℚ := ⟨divideOr undefined⟩; ofCode code : Genotype ℚ) = ofCode code := by
  simp only [ofCode, balance, rhythmOf, portion_divideOr, arrangementOf_divideOr _ nonempty,
    ofCodes_divideOr]

/-- No genotype depends on a quotient by zero. -/
theorem ofTapeOr_eq (undefined : ℚ → ℚ) (tape : Tape) : ofTapeOr undefined tape = ofTape tape := by
  unfold ofTapeOr ofTape
  cases tape.code with
  | nil => rfl
  | cons b rest => exact ofCode_divideOr undefined (Nat.succ_pos _)

theorem isAscii_code (tape : Tape) : ∀ b ∈ tape.code, b.toNat < 128 := by
  intro b member
  obtain ⟨i, found⟩ := Option.isSome_iff_exists.mp (List.mem_filter.mp member).2
  rw [← Instruction.byte_of_ofByte? found]
  cases i <;> decide

theorem withinUnit_ofTape (tape : Tape) : (ofTape tape : Genotype ℚ).WithinUnit := by
  unfold ofTape
  cases tape.code with
  | nil => exact withinUnit_inert
  | cons b rest => exact withinUnit_ofCode (Nat.succ_pos _)

theorem complexity_ofTape (tape : Tape) :
    (ofTape tape : Genotype ℚ).complexity = tape.complexity / 100 := by
  rw [← Tape.length_code]
  unfold ofTape
  cases tape.code with
  | nil => norm_num [inert, ofInt]
  | cons b rest => norm_num [ofCode, portion_eq]

/-- What genotypes are made of, for tapes of any length. Only bytes below 128 are taken from a tape,
so its code is readable text. No quotient by zero has a part in a genotype. Seven measures are parts
of one, and the complexity is a hundredth of the number of instructions. It is part of one exactly
if there are at most a hundred. -/
theorem measures_within_unit (undefined : ℚ → ℚ) (tape : Tape) :
    let g : Genotype ℚ := ofTape tape
    (∀ b ∈ tape.code, b.toNat < 128) ∧ ofTapeOr undefined tape = g ∧ g.WithinUnit ∧
      g.complexity = tape.complexity / 100 ∧
      (g.complexity ∈ Set.Icc 0 1 ↔ tape.complexity ≤ 100) := by
  intro g
  have complexity : g.complexity = tape.complexity / 100 := complexity_ofTape tape
  refine ⟨isAscii_code tape, ofTapeOr_eq undefined tape, withinUnit_ofTape tape, complexity, ?_⟩
  have hundred : (0 : ℚ) < 100 := by norm_num
  have nonneg : (0 : ℚ) ≤ tape.complexity / 100 := div_nonneg (Nat.cast_nonneg _) hundred.le
  rw [complexity, Set.mem_Icc, div_le_one₀ hundred, and_iff_right nonneg]
  exact_mod_cast Iff.rfl

/-- One instruction more than a hundred is beyond the range. -/
theorem complexity_beyond_unit :
    (ofTape (List.replicate 101 Instruction.increment.byte) : Genotype ℚ).complexity ∉
      Set.Icc 0 1 := by
  have counted : Tape.complexity (List.replicate 101 Instruction.increment.byte) = 101 :=
    List.countP_replicate
  rw [complexity_ofTape, counted]
  norm_num

end TapeSwarm.Genotype
