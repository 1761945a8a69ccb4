import Mathlib.Algebra.Ring.Int.Defs
import Mathlib.Tactic.SplitIfs
import TapeSwarm.Proofs.Swarm.Heredity

/-!
# What it takes to found a swarm and to tick it

A swarm is founded if the part of instructions is a double, where there is to be an organism, and if
memory has room for the patterns of all entities (`founding_check_eq_ok_iff`,
`checkPatterns_eq_ok_iff`).

A tick under settings that can be read fails only where there are chances that cannot be compared
with the mutation rate (`stepWith_ok_iff`). Settings that stay the same come to the same rate in
every tick, and organisms neither come nor go, so that the first tick fails or none does
(`mutable_stepWith`).
-/

namespace TapeSwarm

/-! ## Results of computations that may fail -/

theorem bind_eq_ok_iff {ε α β : Type} {x : Except ε α} {f : α → Except ε β} {b : β} :
    x.bind f = .ok b ↔ ∃ a, x = .ok a ∧ f a = .ok b := by
  cases x with
  | error fault => simp [Except.bind]
  | ok a => simp [Except.bind]

theorem mapError_eq_ok_iff {ε δ α : Type} {x : Except ε α} {f : ε → δ} {a : α} :
    x.mapError f = .ok a ↔ x = .ok a := by
  cases x with
  | error fault => simp [Except.mapError]
  | ok a => simp [Except.mapError]

/-! ## Numbers that can be used -/

theorem Threshold.check_eq_ok_iff {threshold : Threshold} {x : Float} :
    threshold.check = .ok x ↔ threshold = .double x := by
  cases threshold with
  | double y => simp [Threshold.check]
  | tooLarge negative => simp [Threshold.check]

theorem Capacity.reach_eq_signed_iff (n : Int) :
    reach n = .signed ↔ -2 ^ 63 ≤ n ∧ n < 2 ^ 63 := by
  unfold reach largestIndex
  split_ifs <;> simp <;> omega

namespace Snapshot

theorem checkPatterns_eq_ok_iff (room count : Nat) (size : Int) :
    checkPatterns room count size = .ok () ↔
      (0 < count → -2 ^ 63 ≤ size ∧ size < 2 ^ 63 ∧ count * (size.toNat * 8) ≤ room) := by
  unfold checkPatterns
  rw [← and_assoc, ← Capacity.reach_eq_signed_iff]
  rcases Nat.eq_zero_or_pos count with rfl | positive
  · exact iff_of_true rfl nofun
  rw [if_neg (Nat.ne_of_gt positive), imp_iff_right positive]
  split
  · next other => exact iff_of_false nofun fun usable => other usable.1
  · next signed =>
    rw [not_not] at signed
    rw [and_iff_right signed]
    split
    · next large => exact iff_of_false nofun (Nat.not_le.mpr large)
    · next fits => exact iff_of_true rfl (Nat.not_lt.mp fits)

/-- Memory that holds the patterns of some entities holds those of fewer. -/
theorem checkPatterns_mono {room few more : Nat} {size : Int} (order : few ≤ more)
    (fits : checkPatterns room more size = .ok ()) :
    checkPatterns room few size = .ok () := by
  rw [checkPatterns_eq_ok_iff] at fits ⊢
  intro some
  obtain ⟨atLeast, atMost, enough⟩ := fits (Nat.lt_of_lt_of_le some order)
  exact ⟨atLeast, atMost, Nat.le_trans (Nat.mul_le_mul_right _ order) enough⟩

end Snapshot

namespace Swarm

variable {σ : Type} [RandomSource σ]

theorem founding_check_eq_ok_iff (room : Nat) (founding : Founding) (settings : Settings) :
    founding.check room settings = .ok () ↔
      (0 < founding.organismCount settings → ∃ x, ratioOf settings = .double x) ∧
      Snapshot.checkPatterns room
        ((founding.organismCount settings).toNat + (founding.foodCount settings).toNat)
        (Entity.patternSizeFor settings) = .ok () := by
  have positive : 0 < (founding.organismCount settings).toNat ↔
      0 < founding.organismCount settings := Int.lt_toNat
  rw [← positive]
  unfold Founding.check
  dsimp only
  split
  · next some =>
    rw [imp_iff_right some]
    show Except.bind _ _ = _ ↔ _
    simp only [bind_eq_ok_iff, mapError_eq_ok_iff, Threshold.check_eq_ok_iff, exists_and_right]
  · next none =>
    refine mapError_eq_ok_iff.trans ?_
    exact (and_iff_right fun some => (none some).elim).symm

/-! ## Ticks that do not fail -/

/-- Chances can be compared with the mutation rate, if there are any. -/
def Mutable (swarm : Swarm σ) (settings : Settings) : Prop :=
  swarm.organisms ≠ [] → swarm.rateUnder settings ≠ .tooLarge false

theorem mutate_ok_iff (swarm : Swarm σ) :
    swarm.mutate.2 = .ok () ↔ (swarm.organisms ≠ [] → swarm.mutationRate ≠ .tooLarge false) := by
  unfold mutate
  by_cases none : swarm.organisms = []
  · simp [none]
  · cases rate : swarm.mutationRate with
    | double x =>
      refine iff_of_true ?_ fun _ => nofun
      rw [Threshold.check]
      split <;> rfl
    | tooLarge negative =>
      cases negative with
      | true => exact iff_of_true rfl fun _ => nofun
      | false =>
        have mutates : ¬(Threshold.isAtMostZero (.tooLarge false) || swarm.organisms.isEmpty) := by
          simpa [Threshold.isAtMostZero] using none
        refine iff_of_false ?_ fun usable => usable none rfl
        rw [if_neg mutates]
        exact nofun

theorem stepWith_ok_iff (swarm : Swarm σ) (settings : Settings) :
    (swarm.stepWith settings).2 = .ok () ↔ swarm.Mutable settings := by
  refine (mutate_ok_iff _).trans (imp_congr_left (not_congr ?_))
  exact List.map_eq_nil_iff

theorem mutable_stepWith {swarm : Swarm σ} {settings : Settings}
    (mutable : swarm.Mutable settings) : (swarm.stepWith settings).1.Mutable settings := by
  have rate : (swarm.stepWith settings).1.rateUnder = swarm.rateUnder :=
    rateUnder_respond swarm (.step (.ok settings : Except Unit Settings))
  obtain ⟨organisms, _, stepped, each⟩ := stepWith_cases swarm settings
  intro some
  rw [rate]
  refine mutable fun none => some ?_
  rw [none] at each
  rw [stepped]
  exact List.forall₂_nil_left_iff.mp each

theorem stepTimes_succ (n : Nat) {swarm next : Swarm σ} {settings : Settings}
    (stepped : swarm.stepWith settings = (next, .ok ())) :
    stepTimes (n + 1) swarm settings = stepTimes n next settings := by
  rw [stepTimes, stepped]

/-- Steps that do not fail may be followed by more. -/
theorem stepTimes_add {n : Nat} (m : Nat) {swarm next : Swarm σ} {settings : Settings}
    (ticked : stepTimes n swarm settings = (next, .ok ())) :
    stepTimes (n + m) swarm settings = stepTimes m next settings := by
  induction n generalizing swarm with
  | zero =>
    obtain rfl : swarm = next := congrArg Prod.fst ticked
    rw [Nat.zero_add]
  | succ n ih =>
    rw [stepTimes] at ticked
    rw [Nat.succ_add, stepTimes]
    split at ticked
    · cases ticked
    · exact ih ticked

theorem stepTimes_of_mutable {swarm : Swarm σ} {settings : Settings}
    (mutable : swarm.Mutable settings) (n : Nat) : (stepTimes n swarm settings).2 = .ok () := by
  induction n generalizing swarm with
  | zero => rfl
  | succ n ih =>
    have stepped : swarm.stepWith settings = ((swarm.stepWith settings).1, .ok ()) :=
      Prod.ext rfl ((stepWith_ok_iff swarm settings).mpr mutable)
    rw [stepTimes_succ n stepped]
    exact ih (mutable_stepWith mutable)

theorem mutable_populate_iff (founding : Founding) (settings : Settings) (source : σ)
    (own : founding.mutationRate = none) :
    (populate founding settings source).Mutable settings ↔
      (0 < founding.organismCount settings → rateOf settings ≠ .tooLarge false) := by
  have rate : (populate founding settings source).rateUnder settings = rateOf settings := by
    rw [rateUnder_populate, Founding.rateUnder, own]
    rfl
  obtain ⟨many, -⟩ := organisms_populate founding settings source
  unfold Mutable
  rw [rate, ← List.length_pos_iff, many, Int.lt_toNat, Int.natCast_zero]

end Swarm

end TapeSwarm
