import Mathlib.Data.ENat.Lattice
import TapeSwarm.Machine.Request
import TapeSwarm.Proofs.Machine.Budget

/-!
# How long a machine goes on

The endurance of a machine is the number of steps in a row that find an instruction, infinite if all
of them do. A run within a budget of whole steps is as many steps as budget and endurance both
allow: it stops at the program's end, where endurance is used up, or at its allowance. To meet its
ceiling it would have to count more than ten times the steps that it may take. What it leaves
besides is its count and the status, and it has nothing to report.

Result: `run_eq_steps_within_endurance`.
-/

namespace TapeSwarm.Machine

variable {size : Nat} {m : Machine size}

open Classical in
/-- How many steps in a row answer that they performed an instruction. -/
noncomputable def endurance (m : Machine size) : ℕ∞ :=
  if ends : ∃ n, (m.steps n).step.2 = false then (Nat.find ends : ℕ∞) else ⊤

theorem le_endurance_iff {n : Nat} :
    (n : ℕ∞) ≤ m.endurance ↔ ∀ i < n, (m.steps i).step.2 = true := by
  unfold endurance
  split
  · next ends =>
    rw [ENat.natCast_le_natCast, Nat.le_find_iff]
    simp only [Bool.not_eq_false]
  · next endless =>
    have always (i : Nat) : (m.steps i).step.2 = true := by
      cases answer : (m.steps i).step.2 with
      | true => rfl
      | false => exact absurd ⟨i, answer⟩ endless
    exact ⟨fun _ i _ => always i, fun _ => le_top⟩

theorem le_endurance_of_performed {n : Nat} (all : m.performed n = n) : (n : ℕ∞) ≤ m.endurance := by
  rw [le_endurance_iff]
  intro i below
  rw [step_snd, performed_eq_self_iff.mp all i below]
  rfl

theorem endurance_le_of_isHalted {n : Nat} (finished : (m.steps n).isHalted = true) :
    m.endurance ≤ n := by
  refine ENat.forall_natCast_le_iff_le.mp fun k enough => ?_
  rw [ENat.natCast_le_natCast]
  by_contra more
  have moved := le_endurance_iff.mp enough n (Nat.lt_of_not_le more)
  rw [step_snd, finished] at moved
  contradiction

/-- A run within a budget of whole steps performs as many instructions as budget and endurance
allow. Its machine is the one that as many steps leave, but for count and status, and its ceiling is
never met. -/
theorem run_eq_steps_within_endurance (m : Machine size) (maxSteps : Int) :
    ∃ k : Nat, (k : ℕ∞) = min ((max maxSteps 0).toNat : ℕ∞) m.endurance ∧
      m.respond (.run (.ofInt maxSteps)) =
        ⟨{ m.steps k with operations := k, status := .halted }, .ok (.ran k), []⟩ := by
  obtain ⟨k, few, all, reached, stop⟩ := m.run_cases (.ofInt maxSteps)
  have allowance : (Budget.ofInt maxSteps).allowance = (max maxSteps 0).toNat := by
    unfold Budget.ofInt
    dsimp only
    omega
  rw [allowance] at few stop
  rcases stop with ⟨quiet, enough⟩ | ⟨some, above⟩
  · refine ⟨k, ?_, ?_⟩
    · have within := le_endurance_of_performed all
      rcases enough with rfl | finished
      · exact (min_eq_left within).symm
      · have spent := le_antisymm within (endurance_le_of_isHalted finished)
        rw [← spent, min_eq_right (ENat.natCast_le_natCast.mpr few)]
    · unfold respond
      dsimp only
      rw [reached, quiet]
      rfl
  · replace above : maxSteps * 10 < k := above
    omega

end TapeSwarm.Machine
