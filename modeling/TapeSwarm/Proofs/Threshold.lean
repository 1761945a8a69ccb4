import Mathlib.Data.Int.Order.Basic
import Mathlib.Data.Option.NAry
import Mathlib.Data.Prod.Lex
import Mathlib.Order.Compare

/-!
# How doubles compare

A double that is no number compares with nothing, so an order of doubles is not decided by ruling
its opposite out. All other doubles have a place in a linear order, and to compare doubles is to
compare their places (`compare_eq`). What holds of a linear order then holds of doubles that are
known to compare at all.
-/

namespace TapeSwarm.Threshold

open Float.Model

/-- Where a double stands: first by sign and kind, then by exponent and mantissa. Both zeros stand
at one place, and what is no number stands nowhere. -/
def rank : UnpackedFloat → Option (Int ×ₗ Int ×ₗ Int)
  | .notANumber => none
  | .infinity .negative => some (toLex (-2, toLex (0, 0)))
  | .finite .negative m e _ => some (toLex (-1, toLex (-e, -m)))
  | .zero _ => some (toLex (0, toLex (0, 0)))
  | .finite .positive m e _ => some (toLex (1, toLex (e, m)))
  | .infinity .positive => some (toLex (2, toLex (0, 0)))

theorem compare_natCast (m m' : Nat) : compare (m : Int) m' = compare m m' := by
  rw [← cmp_eq_compare (m : Int), ← cmp_eq_compare m]
  exact StrictMono.cmp_map_eq (fun _ _ => Int.ofNat_lt.mpr) m m'

theorem compare_neg (e e' : Int) : compare (-e) (-e') = compare e' e := by
  rw [← cmp_eq_compare (-e), ← cmp_eq_compare e']
  exact StrictAnti.cmp_map_eq (fun _ _ => Int.neg_lt_neg) e e'

/-- To compare doubles is to compare where they stand. -/
theorem compare_eq (x y : UnpackedFloat) : x.compare y = Option.map₂ compare (rank x) (rank y) := by
  have sizes (kind e e' m m' : Int) :
      compare (toLex (kind, toLex (e, m))) (toLex (kind, toLex (e', m'))) =
        (compare e e').then (compare m m') := by
    simp [Prod.Lex.compare_def, compareLex, compareOn]
  rcases x with s | _ | s | ⟨s, m, e, _⟩
  · rcases y with t | _ | t | ⟨t, _, _, _⟩
    · cases s <;> cases t <;> rfl
    · cases s <;> rfl
    · cases s <;> rfl
    · cases s <;> cases t <;> rfl
  · cases y <;> rfl
  · rcases y with t | _ | t | ⟨t, _, _, _⟩
    · cases t <;> rfl
    · rfl
    · rfl
    · cases t <;> rfl
  · rcases y with t | _ | t | ⟨t, m', e', _⟩
    · cases s <;> cases t <;> rfl
    · cases s <;> rfl
    · cases s <;> rfl
    · cases s <;> cases t
      · show some ((compare e e').then (compare m m')).swap = some (compare _ _)
        rw [sizes, compare_neg, compare_neg, compare_natCast, Ordering.swap_then, Int.compare_swap,
          Nat.compare_swap]
      · rfl
      · rfl
      · show some ((compare e e').then (compare m m')) = some (compare _ _)
        rw [sizes, compare_natCast]

/-- Where a double stands. -/
def place (x : Float) : Option (Int ×ₗ Int ×ₗ Int) :=
  rank x.toModel.unpack

theorem lt_iff {x y : Float} :
    x < y ↔ ∃ a b, a ∈ place x ∧ b ∈ place y ∧ a < b := by
  have model : x < y ↔ x.toModel.unpack.compare y.toModel.unpack = some .lt :=
    decide_eq_true_iff.trans beq_iff_eq
  simp only [model, compare_eq, Option.map₂_eq_some_iff, compare_lt_iff_lt, place]

theorem le_iff {x y : Float} :
    x ≤ y ↔ ∃ a b, a ∈ place x ∧ b ∈ place y ∧ a ≤ b := by
  have model : x ≤ y ↔ (x.toModel.unpack.compare y.toModel.unpack).any (·.isLE) = true :=
    decide_eq_true_iff
  simp only [model, compare_eq, Option.any_eq_true, place]
  constructor
  · rintro ⟨_, found, le⟩
    obtain ⟨a, b, first, second, rfl⟩ := Option.map₂_eq_some_iff.mp found
    exact ⟨a, b, first, second, compare_le_iff_le.mp (Ordering.isLE_iff_ne_gt.mp le)⟩
  · rintro ⟨a, b, first, second, le⟩
    exact ⟨_, Option.map₂_eq_some_iff.mpr ⟨a, b, first, second, rfl⟩,
      Ordering.isLE_iff_ne_gt.mpr (compare_le_iff_le.mpr le)⟩

theorem not_le_of_lt {x y : Float} (less : x < y) : ¬ y ≤ x := by
  intro more
  obtain ⟨a, b, first, second, below⟩ := lt_iff.mp less
  obtain ⟨b', a', second', first', notBelow⟩ := le_iff.mp more
  obtain rfl := Option.mem_unique first first'
  obtain rfl := Option.mem_unique second second'
  exact not_le.mpr below notBelow

theorem lt_of_lt_of_le {x y z : Float} (less : x < y) (le : y ≤ z) : x < z := by
  obtain ⟨a, b, first, second, below⟩ := lt_iff.mp less
  obtain ⟨b', c, second', third, notAbove⟩ := le_iff.mp le
  obtain rfl := Option.mem_unique second second'
  exact lt_iff.mpr ⟨a, c, first, third, below.trans_le notAbove⟩

end TapeSwarm.Threshold
