import Mathlib.Data.Int.ModEq
import TapeSwarm.Machine.Basic

/-!
# The ring

The positions of a ring are the residues of the integers by its size. Turning the ring adds an
integer, so that a step clockwise or counterclockwise is a turn by one; reflecting the ring takes
the negative. The distance of two positions is the length of the shorter way between them.

Results:
1. `turn_clockwise`, `turn_counterclockwise`: turning the ring keeps both steps.
2. `opposite_clockwise`, `opposite_counterclockwise`: reflecting it exchanges them.
3. `distance_le_iff`: the distance is the length of the shortest turn; so a way over a third
   position is no shorter (`distance_triangle`), and a step is no longer than one.
-/

namespace TapeSwarm.Machine

variable {size : Nat}

theorem size_pos (p : Fin size) : 0 < size :=
  Nat.zero_lt_of_lt p.isLt

theorem eq_of_modEq {p q : Fin size} (same : (p.val : Int) ≡ q.val [ZMOD size]) : p = q :=
  Fin.ext ((Int.natCast_modEq_iff.mp same).eq_of_lt_of_lt p.isLt q.isLt)

/-- The position of an integer. -/
def residue (positive : 0 < size) (x : Int) : Fin size :=
  ⟨(x % size).toNat, by
    have below := Int.emod_lt_of_pos x (Int.natCast_pos.mpr positive)
    omega⟩

theorem val_residue (positive : 0 < size) (x : Int) :
    ((residue positive x).val : Int) = x % size :=
  Int.toNat_of_nonneg (Int.emod_nonneg x (Int.natCast_ne_zero.mpr (Nat.ne_of_gt positive)))

theorem residue_modEq (positive : 0 < size) (x : Int) :
    ((residue positive x).val : Int) ≡ x [ZMOD size] := by
  rw [val_residue]
  exact Int.mod_modEq _ _

/-! ## Turning -/

/-- The position `j` steps clockwise. -/
def turn (j : Int) (p : Fin size) : Fin size :=
  residue (size_pos p) (p.val + j)

theorem val_turn (j : Int) (p : Fin size) : ((turn j p).val : Int) = (p.val + j) % size :=
  val_residue _ _

theorem turn_modEq (j : Int) (p : Fin size) : ((turn j p).val : Int) ≡ p.val + j [ZMOD size] :=
  residue_modEq _ _

theorem turn_zero (p : Fin size) : turn 0 p = p := by
  have stays := turn_modEq 0 p
  rw [Int.add_zero] at stays
  exact eq_of_modEq stays

theorem turn_turn (i j : Int) (p : Fin size) : turn j (turn i p) = turn (i + j) p := by
  refine eq_of_modEq ?_
  calc
    ((turn j (turn i p)).val : Int) ≡ (turn i p).val + j [ZMOD size] := turn_modEq _ _
    _ ≡ p.val + i + j [ZMOD size] := (turn_modEq i p).add_right j
    _ = p.val + (i + j) := Int.add_assoc _ _ _
    _ ≡ (turn (i + j) p).val [ZMOD size] := (turn_modEq _ p).symm

theorem turn_neg_turn (j : Int) (p : Fin size) : turn (-j) (turn j p) = p := by
  rw [turn_turn, Int.add_right_neg, turn_zero]

theorem turn_turn_neg (j : Int) (p : Fin size) : turn j (turn (-j) p) = p := by
  rw [turn_turn, Int.add_left_neg, turn_zero]

/-- Turning the ring, as a rearrangement of its positions. -/
def turning (j : Int) : Fin size ≃ Fin size :=
  ⟨turn j, turn (-j), turn_neg_turn j, turn_turn_neg j⟩

theorem clockwise_eq_turn (p : Fin size) : clockwise p = turn 1 p := by
  have moved : ((clockwise p).val : Int) ≡ p.val + 1 [ZMOD size] := by
    show (((p.val + 1) % size : Nat) : Int) ≡ p.val + 1 [ZMOD size]
    rw [Int.natCast_emod, Int.natCast_add]
    exact Int.mod_modEq _ _
  exact eq_of_modEq (moved.trans (turn_modEq 1 p).symm)

theorem counterclockwise_eq_turn (p : Fin size) : counterclockwise p = turn (-1) p := by
  have positive : 1 ≤ size := size_pos p
  have around : (p.val : Int) + ((size : Int) - 1) = p.val + -1 + size := by omega
  have moved : ((counterclockwise p).val : Int) ≡ p.val + -1 [ZMOD size] := by
    show (((p.val + (size - 1)) % size : Nat) : Int) ≡ p.val + -1 [ZMOD size]
    rw [Int.natCast_emod, Int.natCast_add, Int.natCast_sub positive, Int.natCast_one, around]
    exact (Int.mod_modEq _ _).trans Int.add_modEq_right
  exact eq_of_modEq (moved.trans (turn_modEq (-1) p).symm)

theorem turn_clockwise (j : Int) (p : Fin size) : turn j (clockwise p) = clockwise (turn j p) := by
  rw [clockwise_eq_turn, clockwise_eq_turn, turn_turn, turn_turn, Int.add_comm]

theorem turn_counterclockwise (j : Int) (p : Fin size) :
    turn j (counterclockwise p) = counterclockwise (turn j p) := by
  rw [counterclockwise_eq_turn, counterclockwise_eq_turn, turn_turn, turn_turn, Int.add_comm]

/-! ## Reflecting -/

/-- The position as many steps counterclockwise of the start as a position is clockwise of it. -/
def opposite (p : Fin size) : Fin size :=
  residue (size_pos p) (-p.val)

theorem opposite_modEq (p : Fin size) : ((opposite p).val : Int) ≡ -p.val [ZMOD size] :=
  residue_modEq _ _

theorem opposite_opposite (p : Fin size) : opposite (opposite p) = p := by
  refine eq_of_modEq ?_
  calc
    ((opposite (opposite p)).val : Int) ≡ -(opposite p).val [ZMOD size] := opposite_modEq _
    _ ≡ - -p.val [ZMOD size] := (opposite_modEq p).neg
    _ = p.val := Int.neg_neg _

/-- Reflecting the ring, as a rearrangement of its positions. -/
def reflecting : Fin size ≃ Fin size :=
  ⟨opposite, opposite, opposite_opposite, opposite_opposite⟩

theorem opposite_turn (j : Int) (p : Fin size) : opposite (turn j p) = turn (-j) (opposite p) := by
  refine eq_of_modEq ?_
  calc
    ((opposite (turn j p)).val : Int) ≡ -(turn j p).val [ZMOD size] := opposite_modEq _
    _ ≡ -(p.val + j) [ZMOD size] := (turn_modEq j p).neg
    _ = -p.val + -j := Int.neg_add
    _ ≡ (opposite p).val + -j [ZMOD size] := (opposite_modEq p).symm.add_right _
    _ ≡ (turn (-j) (opposite p)).val [ZMOD size] := (turn_modEq _ _).symm

theorem opposite_clockwise (p : Fin size) :
    opposite (clockwise p) = counterclockwise (opposite p) := by
  rw [clockwise_eq_turn, counterclockwise_eq_turn, opposite_turn]

theorem opposite_counterclockwise (p : Fin size) :
    opposite (counterclockwise p) = clockwise (opposite p) := by
  rw [clockwise_eq_turn, counterclockwise_eq_turn, opposite_turn, Int.neg_neg]

/-! ## Distance -/

/-- How far two positions are apart on the ring: the shorter of the two ways between them. -/
def distance (p q : Fin size) : Nat :=
  min (p - q).val (q - p).val

theorem sub_modEq (p q : Fin size) : ((p - q).val : Int) ≡ p.val - q.val [ZMOD size] := by
  have around : ((size - q.val : Nat) : Int) + p.val = p.val - q.val + size := by
    have inside := q.isLt
    omega
  rw [Fin.val_sub, Int.natCast_emod, Int.natCast_add, around]
  exact (Int.mod_modEq _ _).trans Int.add_modEq_right

theorem turn_sub (p q : Fin size) : turn ((q - p).val : Int) p = q := by
  refine eq_of_modEq ?_
  calc
    ((turn ((q - p).val : Int) p).val : Int) ≡ p.val + (q - p).val [ZMOD size] := turn_modEq _ _
    _ ≡ p.val + (q.val - p.val) [ZMOD size] := (sub_modEq q p).add_left _
    _ = q.val := add_sub_cancel _ _

/-- The way clockwise is no longer than any turn clockwise that leads there. -/
theorem val_sub_le (p : Fin size) (n : Nat) : (turn n p - p).val ≤ n := by
  have same : ((turn n p - p).val : Int) ≡ n [ZMOD size] := by
    calc
      ((turn n p - p).val : Int) ≡ (turn n p).val - p.val [ZMOD size] := sub_modEq _ _
      _ ≡ p.val + n - p.val [ZMOD size] := (turn_modEq _ p).sub_right _
      _ = n := add_sub_cancel_left _ _
  have least : (turn n p - p).val = n % size := by
    rw [← Int.natCast_modEq_iff.mp same, Nat.mod_eq_of_lt (Fin.isLt _)]
  rw [least]
  exact Nat.mod_le n size

/-- The distance is the length of the shortest turn that leads from the one to the other. -/
theorem distance_le_iff {p q : Fin size} {d : Nat} :
    distance p q ≤ d ↔ ∃ j : Int, j.natAbs ≤ d ∧ turn j p = q := by
  unfold distance
  constructor
  · intro near
    rcases min_le_iff.mp near with back | forth
    · refine ⟨-((p - q).val : Int), by omega, ?_⟩
      have there := congrArg (turn (-((p - q).val : Int))) (turn_sub q p)
      rwa [turn_neg_turn, eq_comm] at there
    · exact ⟨(q - p).val, by omega, turn_sub p q⟩
  · rintro ⟨j, short, rfl⟩
    rcases Int.le_total 0 j with forth | back
    · obtain ⟨n, rfl⟩ := Int.eq_ofNat_of_zero_le forth
      exact min_le_of_right_le ((val_sub_le p n).trans (by omega))
    · obtain ⟨n, rfl⟩ := Int.exists_eq_neg_ofNat back
      have way := val_sub_le (turn (-n) p) n
      rw [turn_turn_neg] at way
      exact min_le_of_left_le (way.trans (by omega))

theorem distance_self (p : Fin size) : distance p p = 0 :=
  Nat.le_zero.mp (distance_le_iff.mpr ⟨0, Nat.le_refl 0, turn_zero p⟩)

theorem distance_triangle (p q r : Fin size) : distance p r ≤ distance p q + distance q r := by
  obtain ⟨i, short, rfl⟩ := distance_le_iff.mp (Nat.le_refl (distance p q))
  obtain ⟨j, short', rfl⟩ := distance_le_iff.mp (Nat.le_refl (distance (turn i p) r))
  exact distance_le_iff.mpr ⟨i + j, by omega, (turn_turn i j p).symm⟩

theorem distance_clockwise_le (p : Fin size) : distance p (clockwise p) ≤ 1 :=
  distance_le_iff.mpr ⟨1, by decide, (clockwise_eq_turn p).symm⟩

theorem distance_counterclockwise_le (p : Fin size) : distance p (counterclockwise p) ≤ 1 :=
  distance_le_iff.mpr ⟨-1, by decide, (counterclockwise_eq_turn p).symm⟩

end TapeSwarm.Machine
