import Mathlib.Algebra.BigOperators.Group.List.Basic
import Mathlib.Data.Int.ModEq
import TapeSwarm.Phenotype.Traits

/-!
# What of a snapshot its traits depend on

A snapshot consists of integers of any size, but only a few residues of them matter. They are taken
before anything else is done: six cells modulo 256, where a short pattern has zeros, the sum of
memory modulo 1000, the sum of the output modulo 256, and the operations up to a hundred. One thing
more matters, which is whether there is output at all. Two snapshots that are alike in these
(`Alike`) have the same traits.

For the same reason nothing can go wrong. Read cell by cell, a pattern could be too short, an
integer could be too large for a double, and a span could be zero. `readTraits?` has no outcome in
any of these cases, and it always has one (`readTraits?_eq`).

Result: `traits_depend_on_residues`.
-/

namespace TapeSwarm.Traits

open Scale

/-! ## Traits, where every operation may fail -/

/-- A pattern with as many zeros behind it as there are too few cells. -/
def padded (pattern : List ℤ) : List ℤ :=
  pattern ++ List.replicate (8 - pattern.length) 0

/-- The double nearest to an integer. From the middle between the greatest double and `2 ^ 1024` on,
integers are too large. -/
def toDouble? (n : ℤ) : Option Float :=
  if n.natAbs < 2 ^ 1024 - 2 ^ 970 then some (Float.ofInt n) else none

/-- A place on a scale, unless the integer is too large or the scale has no extent to divide by. -/
def place? (value : ℤ) (lo hi outLo outHi : Float) : Option Float := do
  let x ← toDouble? value
  if hi - lo == 0 then none else some (outLo + (x - lo) * (outHi - outLo) / (hi - lo))

/-- The place of a cell on a scale, unless there is no such cell. -/
def cell? (cells : List ℤ) (index : ℕ) (outLo outHi : Float) : Option Float := do
  let cell ← cells[index]?
  place? (cell % 256) 0 255 outLo outHi

/-- The place of the sum of an output on a scale; without output there is no influence. -/
def influence? (output : List ℤ) : Option Float :=
  if output = [] then some 0 else place? (output.sum % 256) 0 255 (-0.2) 0.2

/-- The traits, if every cell is there, every integer has a double and no divisor is zero. -/
def readTraits? (s : Snapshot) : Option Traits := do
  let cells := padded s.pattern
  let east ← cell? cells 0 (-1) 1
  let north ← cell? cells 1 (-1) 1
  let activity ← place? (max 0 (min 100 s.operations)) 0 100 0.1 1
  let social ← place? (s.memorySum % 1000) 0 1000 0 1
  let orbital ← cell? cells 2 0 1
  let wander ← cell? cells 3 0 1
  let aggression ← cell? cells 4 0 1
  let speed ← cell? cells 5 0.3 1.5
  let outputInfluence ← influence? s.output
  return { heading := Float.atan2 north east, activity, social, orbital, wander, aggression, speed,
           outputInfluence }

theorem toDouble?_of_le {n : ℤ} (atLeast : 0 ≤ n) (atMost : n ≤ 1000) :
    toDouble? n = some (Float.ofInt n) := by
  have few : n.natAbs ≤ 1000 := by omega
  exact if_pos (Nat.lt_of_le_of_lt few (by decide +kernel))

/-- On a scale with an extent, small numbers that are not negative have a place. -/
theorem place?_eq {value : ℤ} {lo hi : Float} (outLo outHi : Float) (atLeast : 0 ≤ value)
    (atMost : value ≤ 1000) (differ : (hi == lo) = false) (extent : (hi - lo == 0) = false) :
    place? value lo hi outLo outHi = some (rescale (Float.ofInt value) lo hi outLo outHi) := by
  simp [place?, rescale, toDouble?_of_le atLeast atMost, differ, extent]

theorem byte_place?_eq (value : ℤ) (outLo outHi : Float) :
    place? (value % 256) 0 255 outLo outHi = some (ofByte (value % 256) outLo outHi) :=
  place?_eq outLo outHi (by omega) (by omega) (by decide +kernel) (by decide +kernel)

/-- Zeros at the end of a pattern stand for what is missing anyway. -/
theorem residue_append_zeros (pattern : List ℤ) (n index : ℕ) :
    residue (pattern ++ List.replicate n 0) index = residue pattern index := by
  rw [residue, residue, List.getElem?_append]
  split
  · rfl
  · next beyond =>
    have missing : pattern[index]? = none := List.getElem?_eq_none (Nat.le_of_not_lt beyond)
    rw [missing, List.getElem?_replicate]
    split
    · rfl
    · rfl

theorem residue_eq (pattern : List ℤ) (index : ℕ) :
    residue pattern index = (padded pattern).getD index 0 % 256 := by
  rw [← residue_append_zeros pattern (8 - pattern.length), List.getD_eq_getElem?_getD]
  rfl

theorem cell?_eq (pattern : List ℤ) {index : ℕ} (isRead : index < 6) (outLo outHi : Float) :
    cell? (padded pattern) index outLo outHi =
      some (ofByte (residue pattern index) outLo outHi) := by
  have enough : index < (padded pattern).length := by
    rw [padded, List.length_append, List.length_replicate]
    omega
  have found := List.getElem?_eq_getElem enough
  rw [residue_eq, List.getD_eq_getElem?_getD, cell?, found, Option.getD_some, Option.bind_eq_bind,
    Option.bind_some, byte_place?_eq]

theorem influence?_eq (s : Snapshot) :
    influence? s.output = some (ofSnapshot s).outputInfluence := by
  unfold influence? ofSnapshot
  cases s.output with
  | nil => rfl
  | cons value rest =>
    rw [if_neg (List.cons_ne_nil value rest), byte_place?_eq, List.sum_eq_foldr]
    rfl

/-- Every snapshot has traits. -/
theorem readTraits?_eq (s : Snapshot) : readTraits? s = some (ofSnapshot s) := by
  have activity : place? (max 0 (min 100 s.operations)) 0 100 0.1 1 =
      some (rescale (Float.ofInt (counted s.operations)) 0 100 0.1 1) :=
    place?_eq _ _ (by omega) (by omega) (by decide +kernel) (by decide +kernel)
  have social : place? (s.memorySum % 1000) 0 1000 0 1 =
      some (rescale (Float.ofInt (s.memorySum % 1000)) 0 1000 0 1) :=
    place?_eq _ _ (by omega) (by omega) (by decide +kernel) (by decide +kernel)
  simp only [readTraits?, cell?_eq, Nat.reduceLT, activity, social, influence?_eq,
    Option.bind_eq_bind, Option.bind_some]
  rfl

/-! ## Snapshots that are alike -/

/-- Agreement of two snapshots in all that matters. -/
structure Alike (s t : Snapshot) : Prop where
  cells : ∀ index < 6,
    (padded s.pattern).getD index 0 ≡ (padded t.pattern).getD index 0 [ZMOD 256]
  operations : max 0 (min 100 s.operations) = max 0 (min 100 t.operations)
  memorySum : s.memorySum ≡ t.memorySum [ZMOD 1000]
  output : s.output = [] ∧ t.output = [] ∨
    s.output ≠ [] ∧ t.output ≠ [] ∧ s.output.sum ≡ t.output.sum [ZMOD 256]

namespace Alike

variable {s t : Snapshot}

theorem residue_eq (alike : Alike s t) {index : ℕ} (isRead : index < 6) :
    residue s.pattern index = residue t.pattern index := by
  rw [Traits.residue_eq, Traits.residue_eq]
  exact alike.cells index isRead

theorem isEmpty_output (alike : Alike s t) : s.output.isEmpty = t.output.isEmpty := by
  rcases alike.output with ⟨left, right⟩ | ⟨left, right, _⟩
  · rw [left, right]
  · rw [List.isEmpty_eq_false_iff.mpr left, List.isEmpty_eq_false_iff.mpr right]

theorem sum_output (alike : Alike s t) :
    s.output.foldr (· + ·) 0 % 256 = t.output.foldr (· + ·) 0 % 256 := by
  rcases alike.output with ⟨left, right⟩ | ⟨_, _, same⟩
  · rw [left, right]
  · rw [← List.sum_eq_foldr, ← List.sum_eq_foldr]
    exact same

theorem ofSnapshot_eq (alike : Alike s t) : ofSnapshot s = ofSnapshot t := by
  have operations : counted s.operations = counted t.operations := alike.operations
  have memorySum : s.memorySum % 1000 = t.memorySum % 1000 := alike.memorySum
  simp only [ofSnapshot, alike.residue_eq, operations, memorySum, alike.isEmpty_output,
    alike.sum_output, Nat.reduceLT]

end Alike

/-- The order of an output matters neither to whether there is any nor to its sum. -/
theorem outputs_of_perm {output other : List ℤ} (perm : output.Perm other) :
    output = [] ∧ other = [] ∨
      output ≠ [] ∧ other ≠ [] ∧ output.sum ≡ other.sum [ZMOD 256] := by
  by_cases empty : other = []
  · exact .inl ⟨List.perm_nil.mp (empty ▸ perm), empty⟩
  · have filled : output ≠ [] := fun none => empty (List.nil_perm.mp (none ▸ perm))
    exact .inr ⟨filled, empty, congrArg (· % 256) perm.sum_eq⟩

theorem alike_of_perm (s : Snapshot) {output : List ℤ} (perm : output.Perm s.output) :
    Alike { s with output } s where
  cells _ _ := rfl
  operations := rfl
  memorySum := rfl
  output := outputs_of_perm perm

/-- A pattern with the same residues does for another. -/
theorem alike_of_residues (s : Snapshot) {pattern : List ℤ}
    (same : ∀ index < 6, residue pattern index = residue s.pattern index) :
    Alike { s with pattern } s where
  cells index isRead := by
    have residues := same index isRead
    rwa [residue_eq, residue_eq] at residues
  operations := rfl
  memorySum := rfl
  output := outputs_of_perm (.refl s.output)

theorem residue_of_take {pattern other : List ℤ} (same : pattern.take 6 = other.take 6)
    {index : ℕ} (isRead : index < 6) : residue pattern index = residue other index := by
  rw [residue, ← List.getElem?_take_of_lt isRead, same, List.getElem?_take_of_lt isRead, residue]

/-- Snapshots of any integers, with patterns and outputs of any length. If they are alike in what
matters, they have the same traits, and have them whatever the integers are. So the output may be
put into another order, zeros may follow a pattern, and the cells after the sixth may be changed. -/
theorem traits_depend_on_residues {s t : Snapshot} (alike : Alike s t) :
    readTraits? s = some (ofSnapshot s) ∧ readTraits? t = some (ofSnapshot t) ∧
      ofSnapshot s = ofSnapshot t ∧
      (∀ output, output.Perm s.output → ofSnapshot { s with output } = ofSnapshot s) ∧
      (∀ n, ofSnapshot { s with pattern := s.pattern ++ List.replicate n 0 } = ofSnapshot s) ∧
      ∀ pattern, pattern.take 6 = s.pattern.take 6 →
        ofSnapshot { s with pattern } = ofSnapshot s := by
  refine ⟨readTraits?_eq s, readTraits?_eq t, alike.ofSnapshot_eq, fun output perm => ?_,
    fun n => ?_, fun pattern same => ?_⟩
  · exact (alike_of_perm s perm).ofSnapshot_eq
  · exact (alike_of_residues s fun index _ => residue_append_zeros s.pattern n index).ofSnapshot_eq
  · exact (alike_of_residues s fun index isRead => residue_of_take same isRead).ofSnapshot_eq

/-- A snapshot with numbers below zero and beyond all words, and one of bytes that is like it. -/
theorem traits_depend_on_residues_huge :
    let s : Snapshot := ⟨36893488147419103232, -1, [-1, 300, 0, 0, 0, 0, 9],
      [-3, 36893488147419103232]⟩
    let t : Snapshot := ⟨100, 999, [255, 44], [253]⟩
    Alike s t ∧ readTraits? s = some (ofSnapshot s) ∧ ofSnapshot s = ofSnapshot t ∧
      ofSnapshot { t with pattern := [255, 44, 0, 0, 0] } = ofSnapshot t ∧
      ofSnapshot { s with output := [36893488147419103232, -3] } = ofSnapshot s := by
  intro s t
  have alike : Alike s t := ⟨by decide, by decide, by decide, .inr (by decide)⟩
  have same : Alike t t := alike_of_perm t (.refl t.output)
  obtain ⟨outcome, _, equal, reordered, _⟩ := traits_depend_on_residues alike
  obtain ⟨_, _, _, _, extended, _⟩ := traits_depend_on_residues same
  exact ⟨alike, outcome, equal, extended 3, reordered _ (.swap _ _ _)⟩

end TapeSwarm.Traits
