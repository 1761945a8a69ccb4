import Mathlib.Data.Finset.Card
import Mathlib.Data.Finset.Union
import TapeSwarm.Proofs.Tape.Lineage

/-!
# What mutations make of a tape

A mutation draws a place, a fraction and what to do there. It writes at that place only, so a tape
and its mutant differ at one index at most, and the number of instructions moves by one at most.
Both measures add up along a line of mutants (`Within.trans`), so neither moves further than there
were mutations.

Result: `mutate_changes_one_place`.
-/

namespace TapeSwarm.Tape

open Draws

variable {σ : Type} [RandomSource σ]

/-! ## Differences -/

/-- The indices at which another tape of the same length differs. -/
def differences (tape other : Tape) : Finset Nat :=
  {i ∈ Finset.range tape.length | tape[i]? ≠ other[i]?}

theorem mem_differences {tape other : Tape} {i : Nat} :
    i ∈ tape.differences other ↔ i < tape.length ∧ tape[i]? ≠ other[i]? := by
  rw [differences, Finset.mem_filter, Finset.mem_range]

theorem differences_subset {tape middle other : Tape} (length : middle.length = tape.length) :
    tape.differences other ⊆ tape.differences middle ∪ middle.differences other := by
  intro i differs
  obtain ⟨inside, differs⟩ := mem_differences.mp differs
  rw [Finset.mem_union, mem_differences, mem_differences, length]
  by_cases same : tape[i]? = middle[i]?
  · exact .inr ⟨inside, same ▸ differs⟩
  · exact .inl ⟨inside, same⟩

/-! ## Tapes within a number of changes -/

/-- The second tape differs from the first one at `n` indices at most, and has at most `n`
instructions more or fewer. -/
structure Within (n : Nat) (tape other : Tape) : Prop where
  length : other.length = tape.length
  differences : (tape.differences other).card ≤ n
  complexity_le : other.complexity ≤ tape.complexity + n
  le_complexity : tape.complexity ≤ other.complexity + n

theorem within_refl (tape : Tape) : Within 0 tape tape where
  length := rfl
  differences := by
    rw [Nat.le_zero, Finset.card_eq_zero, Finset.eq_empty_iff_forall_notMem]
    exact fun i differs => (mem_differences.mp differs).2 rfl
  complexity_le := Nat.le_refl _
  le_complexity := Nat.le_refl _

theorem Within.trans {m n : Nat} {tape middle other : Tape} (first : Within m tape middle)
    (second : Within n middle other) : Within (m + n) tape other where
  length := second.length.trans first.length
  differences := calc
    (tape.differences other).card ≤ (tape.differences middle ∪ middle.differences other).card :=
      Finset.card_le_card (differences_subset first.length)
    _ ≤ (tape.differences middle).card + (middle.differences other).card :=
      Finset.card_union_le _ _
    _ ≤ m + n := Nat.add_le_add first.differences second.differences
  complexity_le := by
    have one := first.complexity_le
    have two := second.complexity_le
    omega
  le_complexity := by
    have one := first.le_complexity
    have two := second.le_complexity
    omega

/-- A byte that is written over another one takes over its part in the complexity. -/
theorem complexity_set {tape : Tape} {place : Nat} (inside : place < tape.length) (b : UInt8) :
    complexity (tape.set place b) + (isInstruction tape[place]).toNat =
      tape.complexity + (isInstruction b).toNat := by
  have counted : complexity (tape.set place b) = _ := List.countP_set inside
  have old : _ ≤ tape.complexity := List.boole_getElem_le_countP inside
  rw [counted]
  -- the old count includes the old byte, so that the difference in it is a true one
  unfold complexity at old ⊢
  cases isInstruction b <;> cases before : isInstruction tape[place]
  all_goals
    rw [before] at old
    simp only [Bool.false_eq_true, if_false, if_true, Bool.toNat_false, Bool.toNat_true] at old ⊢
    omega

theorem IsPointChange.within {tape changed : Tape} (point : IsPointChange tape changed) :
    Within 1 tape changed := by
  have length := point.length_eq
  obtain ⟨place, b, rfl⟩ := point
  rcases Nat.lt_or_ge place tape.length with inside | outside
  · have counted := complexity_set inside b
    have before := Bool.toNat_le (isInstruction tape[place])
    have after := Bool.toNat_le (isInstruction b)
    have single : tape.differences (tape.set place b) ⊆ {place} := by
      intro i differs
      obtain ⟨_, differs⟩ := mem_differences.mp differs
      rw [Finset.mem_singleton]
      by_contra other
      exact differs (List.getElem?_set_ne (Ne.symm other)).symm
    refine ⟨length, (Finset.card_le_card single).trans (Finset.card_singleton place).le, ?_, ?_⟩
    · omega
    · omega
  · rw [List.set_eq_of_length_le outside]
    exact ⟨rfl, (within_refl tape).differences.trans (Nat.zero_le 1), Nat.le_succ _, Nat.le_succ _⟩

/-! ## One mutation -/

/-- A mutation writes an instruction at the place drawn for it, or moves the byte there. -/
theorem mutate_cases (first : UInt8) (rest : Tape) (s : σ) :
    let place := RandomSource.upTo s rest.length
    let f := RandomSource.fraction place.2
    (f.1 < instructionChance ∧ ∃ i, isInstruction i = true ∧
        mutate (first :: rest) s = ((first :: rest).set place.1 i, (RandomSource.upTo f.2 7).2)) ∨
      ¬ f.1 < instructionChance ∧ ∃ drift : Int, -5 ≤ drift ∧ drift ≤ 5 ∧
        mutate (first :: rest) s =
          ((first :: rest).modify place.1 (nudge · drift), (RandomSource.upTo f.2 10).2) := by
  intro place f
  by_cases chance : f.1 < instructionChance
  · refine .inl ⟨chance, _, isInstruction_drawInstruction f.2, ?_⟩
    show (if f.1 < instructionChance then (_ : Draws σ Tape) else _) f.2 = _
    rw [if_pos chance]
    rfl
  · have few := (RandomSource.upTo f.2 10).1.isLt
    refine .inr ⟨chance, (RandomSource.upTo f.2 10).1.val - 5, by omega, by omega, ?_⟩
    show (if f.1 < instructionChance then (_ : Draws σ Tape) else _) f.2 = _
    rw [if_neg chance]
    rfl

/-! ## Lines of mutants -/

/-- The tape at the end of a line of mutants, each drawn from a source of its own. -/
def mutants (tape : Tape) (sources : List σ) : Tape :=
  sources.foldl (fun tape s => (mutate tape s).1) tape

theorem within_mutants (tape : Tape) (sources : List σ) :
    Within sources.length tape (tape.mutants sources) := by
  induction sources generalizing tape with
  | nil => exact within_refl tape
  | cons s rest ih =>
    have first : Within 1 tape (mutate tape s).1 := (isPointChange_mutate tape s).within
    rw [List.length_cons, Nat.add_comm]
    exact first.trans (ih (mutate tape s).1)

/-- What one mutation does, and how far many can go. The empty tape is left alone and nothing is
drawn for it. For any other tape a place, a fraction and one more number are drawn. The mutant has
the length of the tape and differs from it at that place only. If the fraction is below 0.6, it has
an instruction there, and no fewer instructions than the tape; if not, its byte there is at most
five away. After any number of mutations, from whatever sources, a tape differs at no more indices
than there were mutations, and has no more instructions gained or lost. -/
theorem mutate_changes_one_place :
    (∀ s : σ, mutate [] s = ([], s)) ∧
    (∀ (first : UInt8) (rest : Tape) (s : σ),
      let tape : Tape := first :: rest
      let place := RandomSource.upTo s rest.length
      let f := RandomSource.fraction place.2
      let mutant := (mutate tape s).1
      let left := (mutate tape s).2
      mutant.length = tape.length ∧
        (∀ i : Nat, i ≠ place.1 → mutant[i]? = tape[i]?) ∧
        (f.1 < 0.6 →
          left = (RandomSource.upTo f.2 7).2 ∧
            (∃ b, mutant[place.1.val]? = some b ∧ isInstruction b = true) ∧
            tape.complexity ≤ mutant.complexity) ∧
        (¬ f.1 < 0.6 →
          left = (RandomSource.upTo f.2 10).2 ∧
            ∃ b c, ∃ drift : Int, tape[place.1.val]? = some b ∧ mutant[place.1.val]? = some c ∧
              -5 ≤ drift ∧ drift ≤ 5 ∧ (c.toNat : Int) = (b.toNat + drift) % 256) ∧
        mutant.complexity ≤ tape.complexity + 1 ∧ tape.complexity ≤ mutant.complexity + 1) ∧
    ∀ (tape : Tape) (sources : List σ),
      let last := tape.mutants sources
      last.length = tape.length ∧ (tape.differences last).card ≤ sources.length ∧
        last.complexity ≤ tape.complexity + sources.length ∧
        tape.complexity ≤ last.complexity + sources.length := by
  refine ⟨fun s => rfl, fun first rest s => ?_, fun tape sources => ?_⟩
  · intro tape place f mutant left
    have near : Within 1 tape mutant := (isPointChange_mutate tape s).within
    have inside : place.1.val < tape.length := place.1.isLt
    obtain ⟨chance, i, instruction, mutated⟩ | ⟨chance, drift, atLeast, atMost, mutated⟩ :=
      mutate_cases first rest s
    · have written : mutant = tape.set place.1 i := congrArg Prod.fst mutated
      have drawn : left = (RandomSource.upTo f.2 7).2 := congrArg Prod.snd mutated
      refine ⟨near.length, fun j other => ?_, fun _ => ⟨drawn, ⟨i, ?_, instruction⟩, ?_⟩,
        fun above => absurd chance above, near.complexity_le, near.le_complexity⟩
      · rw [written, List.getElem?_set_ne (Ne.symm other)]
      · rw [written, List.getElem?_set_self inside]
      · have counted := complexity_set inside i
        have before := Bool.toNat_le (isInstruction tape[place.1.val])
        rw [instruction, ← written] at counted
        simp only [Bool.toNat_true] at counted
        omega
    · have written : mutant = tape.modify place.1 (nudge · drift) := congrArg Prod.fst mutated
      have drawn : left = (RandomSource.upTo f.2 10).2 := congrArg Prod.snd mutated
      refine ⟨near.length, fun j other => ?_, fun below => absurd below chance,
        fun _ => ⟨drawn, tape[place.1.val], nudge tape[place.1.val] drift, drift,
          List.getElem?_eq_getElem inside, ?_, atLeast, atMost, toNat_nudge _ _⟩,
        near.complexity_le, near.le_complexity⟩
      · rw [written, List.getElem?_modify_ne _ _ (Ne.symm other)]
      · rw [written, List.getElem?_modify_eq, List.getElem?_eq_getElem inside]
        rfl
  · obtain ⟨length, differences, more, fewer⟩ := within_mutants tape sources
    exact ⟨length, differences, more, fewer⟩

/-- A filler byte that becomes an instruction, and a byte that is moved back around zero. -/
theorem mutate_changes_one_place_around :
    let tape : Tape := [43, 0, 2]
    let early := Scripted.ofLists [1, 3] [0.5]
    let late := Scripted.ofLists [2, 0] [0.75]
    (RandomSource.fraction (RandomSource.upTo early 2).2).1 < 0.6 ∧
      ¬ (RandomSource.fraction (RandomSource.upTo late 2).2).1 < 0.6 ∧
      (0 ≠ (RandomSource.upTo early 2).1.val ∧ (mutate tape early).1[0]? = tape[0]?) ∧
      (∃ b, (mutate tape early).1[1]? = some b ∧ isInstruction b = true) ∧
      ((mutate tape early).2.integersTaken, (mutate tape early).2.fractionsTaken) = (2, 1) ∧
      (mutate tape late).1 = [43, 0, 253] ∧
      (∃ b c, ∃ drift : Int, tape[2]? = some b ∧ (mutate tape late).1[2]? = some c ∧
        -5 ≤ drift ∧ drift ≤ 5 ∧ (c.toNat : Int) = (b.toNat + drift) % 256) ∧
      (tape.differences (tape.mutants [early, late])).card ≤ 2 := by
  intro tape early late
  obtain ⟨_, once, often⟩ := mutate_changes_one_place (σ := Scripted)
  have below : (RandomSource.fraction (RandomSource.upTo early 2).2).1 < 0.6 := by decide +kernel
  have above : ¬ (RandomSource.fraction (RandomSource.upTo late 2).2).1 < 0.6 := by decide +kernel
  have other : 0 ≠ (RandomSource.upTo early 2).1.val := by decide
  obtain ⟨_, elsewhere, instruction, _⟩ := once 43 [0, 2] early
  obtain ⟨_, _, _, nudged, _⟩ := once 43 [0, 2] late
  obtain ⟨drawn, written, _⟩ := instruction below
  refine ⟨below, above, ⟨other, elsewhere 0 other⟩, written, ?_, by decide +kernel,
    (nudged above).2, (often tape [early, late]).2.1⟩
  rw [drawn]
  rfl

end TapeSwarm.Tape
