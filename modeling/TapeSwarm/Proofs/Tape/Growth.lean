import Mathlib.Data.List.Forall2
import TapeSwarm.Tape.Growth

/-!
# How tapes come about

What holds of grown, mutated and replicated tapes whatever the source of random numbers gives. No
bound on a draw is assumed beyond its type, so only the number of draws and the place of each draw
in the tape count.

Results:
1. `length_drawTape`, `length_replicate`: the lengths of new tapes.
2. `isFood_drawFood`: food tapes start with instructions.
3. `isPointChange_mutate`: a mutation changes at most one byte.
-/

namespace TapeSwarm

/-! ## Whatever is drawn -/

namespace Draws

variable {σ α β : Type}

/-- Whatever the source gives, the answer of a draw has a property. -/
def Always (draw : Draws σ α) (p : α → Prop) : Prop :=
  ∀ s, p (draw s).1

theorem always_pure {p : α → Prop} {a : α} (holds : p a) : Always (pure a : Draws σ α) p :=
  fun _ => holds

theorem Always.bind {q : α → Prop} {p : β → Prop} {draw : Draws σ α} {next : α → Draws σ β}
    (first : Always draw q) (later : ∀ a, q a → Always (next a) p) : Always (draw >>= next) p :=
  fun s => later (draw s).1 (first s) (draw s).2

/-- A draw whose answer does not matter. -/
theorem always_bind {p : β → Prop} {draw : Draws σ α} {next : α → Draws σ β}
    (later : ∀ a, Always (next a) p) : Always (draw >>= next) p :=
  fun s => later (draw s).1 (draw s).2

theorem always_length_repeated (draw : Draws σ α) (n : Nat) :
    Always (repeated draw n) (·.length = n) :=
  length_repeated draw n

theorem Always.repeated {p : α → Prop} {draw : Draws σ α} (each : Always draw p) (n : Nat) :
    Always (Draws.repeated draw n) fun list => list.length = n ∧ ∀ a ∈ list, p a := by
  intro s
  refine ⟨length_repeated draw n s, ?_⟩
  induction n generalizing s with
  | zero => exact fun a member => nomatch member
  | succ n ih =>
    rw [repeated_succ]
    exact List.forall_mem_cons.mpr ⟨each s, ih (draw s).2⟩

/-- Draws for the members of a list answer them one by one. -/
theorem always_forEach {r : α → β → Prop} {draw : α → Draws σ β}
    (each : ∀ a, Always (draw a) (r a)) (list : List α) :
    Always (forEach draw list) (List.Forall₂ r list) := by
  intro s
  induction list generalizing s with
  | nil => exact .nil
  | cons a rest ih =>
    rw [forEach_cons]
    exact .cons (each a s) (ih (draw a s).2)

end Draws

namespace Tape

open Draws

variable {σ : Type} [RandomSource σ]

theorem complexity_le_length (tape : Tape) : tape.complexity ≤ tape.length :=
  List.countP_le_length

/-- A tape that has an instruction wherever another one has, has no fewer of them. -/
theorem complexity_le_of_forall {tape other : Tape} (length : other.length = tape.length)
    (each : ∀ (i : Nat) a b, tape[i]? = some a → other[i]? = some b → isInstruction a = true →
      isInstruction b = true) :
    tape.complexity ≤ other.complexity := by
  induction tape generalizing other with
  | nil => exact Nat.zero_le _
  | cons a rest ih =>
    cases other with
    | nil => contradiction
    | cons b others =>
      have fewer := ih (Nat.succ.inj length) fun i => each (i + 1)
      have first := each 0 a b rfl rfl
      unfold complexity at fewer ⊢
      rw [List.countP_cons, List.countP_cons]
      split
      · next isInstruction =>
        rw [if_pos (first isInstruction)]
        exact Nat.succ_le_succ fewer
      · exact Nat.le_trans fewer (Nat.le_add_right _ _)

/-! ## New tapes -/

theorem isInstruction_drawInstruction :
    Always (drawInstruction : Draws σ UInt8) fun b => isInstruction b = true :=
  always_bind fun _ => always_pure (isInstruction_byte _)

theorem always_drawInstructions (count : Nat) :
    Always (drawInstructions count : Draws σ Tape) fun tape =>
      tape.length = count ∧ ∀ b ∈ tape, isInstruction b = true :=
  isInstruction_drawInstruction.repeated count

theorem length_drawFiller (count : Nat) :
    Always (drawFiller count : Draws σ Tape) (·.length = count) :=
  always_bind fun _ => always_pure Vector.length_toList

theorem length_drawTape (length : Nat) (ratio : Float) :
    Always (drawTape length ratio : Draws σ Tape) (·.length = length) := by
  refine (length_drawFiller length).bind fun filler fillerLength => ?_
  refine (always_drawInstructions length).bind fun instructions ⟨instructionsLength, _⟩ => ?_
  refine (always_length_repeated _ length).bind fun fractions fractionsLength => always_pure ?_
  rw [length_blend, fillerLength, instructionsLength, fractionsLength, Nat.min_self, Nat.min_self]

/-- What a food tape is: of the shortest length, with instructions at the first two places. -/
structure IsFood (tape : Tape) : Prop where
  length : tape.length = shortest
  head : ∀ b ∈ tape.take 2, isInstruction b = true

/-- The head of a food tape alone makes for two instructions. -/
theorem IsFood.two_le_complexity {tape : Tape} (food : IsFood tape) : 2 ≤ tape.complexity := by
  have all : (tape.take 2).countP isInstruction = (tape.take 2).length :=
    List.countP_eq_length.mpr food.head
  calc
    2 = (tape.take 2).length := by rw [List.length_take, food.length]; rfl
    _ = (tape.take 2).countP isInstruction := all.symm
    _ ≤ tape.complexity := (List.take_sublist 2 tape).countP_le

theorem isFood_drawFood : Always (drawFood : Draws σ Tape) IsFood := by
  refine always_bind fun extra => ?_
  refine (always_drawInstructions _).bind fun head ⟨headLength, instructions⟩ => ?_
  refine (length_drawFiller _).bind fun filler fillerLength => ?_
  refine always_pure ⟨?_, ?_⟩
  · have few := extra.isLt
    rw [List.length_append, fillerLength, headLength, shortest]
    omega
  · intro b member
    rw [List.take_append_of_le_length (by omega)] at member
    exact instructions b (List.mem_of_mem_take member)

/-! ## Mutation -/

/-- The second tape is the first one with at most one byte changed. -/
def IsPointChange (tape changed : Tape) : Prop :=
  ∃ place b, changed = tape.set place b

theorem isPointChange_refl (tape : Tape) : IsPointChange tape tape :=
  ⟨tape.length, 0, (List.set_eq_of_length_le (Nat.le_refl _)).symm⟩

theorem IsPointChange.length_eq {tape changed : Tape} (point : IsPointChange tape changed) :
    changed.length = tape.length := by
  obtain ⟨place, b, rfl⟩ := point
  exact List.length_set

/-- To apply a function at a place is to change that place, if the tape has it. -/
theorem isPointChange_modify (tape : Tape) (place : Nat) (f : UInt8 → UInt8) :
    IsPointChange tape (tape.modify place f) := by
  rcases Nat.lt_or_ge place tape.length with inside | outside
  · exact ⟨place, f tape[place], List.modify_eq_set_get f inside⟩
  · rw [List.modify_eq_self outside]
    exact isPointChange_refl tape

/-- Both ways to mutate write one place. -/
theorem isPointChange_mutate (tape : Tape) :
    Always (mutate tape : Draws σ Tape) (IsPointChange tape) := by
  cases tape with
  | nil => exact always_pure (isPointChange_refl [])
  | cons first rest =>
    refine always_bind fun place => always_bind fun f => ?_
    split
    · exact always_bind fun i => always_pure ⟨place, i, rfl⟩
    · exact always_bind fun drift => always_pure (isPointChange_modify _ _ _)

/-! ## Replication -/

/-- A child has the length of its parent, brought between the shortest and the longest length. -/
theorem length_replicate (fidelity : Float) (tape : Tape) :
    Always (replicate fidelity tape : Draws σ Tape)
      (·.length = min longest (max shortest tape.length)) := by
  refine (always_length_repeated _ _).bind fun drifts driftsLength => ?_
  refine (always_length_repeated _ _).bind fun fractions fractionsLength => ?_
  refine (always_drawInstructions _).bind fun padding ⟨paddingLength, _⟩ => always_pure ?_
  rw [List.length_take, List.length_append, paddingLength, length_copy, driftsLength,
    fractionsLength]
  omega

end Tape

end TapeSwarm
