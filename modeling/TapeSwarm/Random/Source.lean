import TapeSwarm.Capacity

/-!
Sources of random numbers.

A source is a state from which three kinds of draw can be taken: an integer up to a bound, a
fraction, and a block of bytes. A draw answers what was drawn and the state that is left, so a
program's draws and their order are part of what it computes.
-/

namespace TapeSwarm

/-- Why random numbers cannot be drawn. -/
inductive RandomFault where
  /-- A seed was below zero. -/
  | negativeSeed
  /-- There is no block for what was to be drawn. -/
  | capacity (fault : Capacity.Fault)
  /-- No word holds a number of draws. -/
  | noWord
  deriving DecidableEq, Repr

def RandomFault.message : RandomFault → String
  | negativeSeed => "expected non-negative integer"
  | capacity fault => fault.message
  | noWord => "Python int too large to convert to C long"

/-- The source of a seed, which must not be negative. -/
def seeded? {σ : Type} (seeding : Nat → σ) (seed : Int) : Except RandomFault σ :=
  if seed < 0 then .error .negativeSeed else .ok (seeding seed.toNat)

/-- States from which random numbers can be drawn. -/
class RandomSource (σ : Type) where
  /-- An integer from zero to `last`. -/
  upTo : σ → (last : Nat) → Fin (last + 1) × σ
  /-- A fraction. -/
  fraction : σ → Float × σ
  /-- A block of bytes. -/
  block : σ → (count : Nat) → Vector UInt8 count × σ
  /-- How many bytes a number asks for; a source may refuse it. -/
  countBytes : σ → Int → Except RandomFault Nat
  /-- How many choices a number asks for; a source may refuse it. -/
  countChoices : σ → Int → Except RandomFault Nat

/-- A computation that draws from a source. -/
abbrev Draws (σ α : Type) := StateM σ α

namespace Draws

variable {σ : Type}

/-- Draws one after the other, as many as `count`. -/
def repeated {α : Type} (draw : Draws σ α) : Nat → Draws σ (List α)
  | 0 => pure []
  | n + 1 => do
    let first ← draw
    let rest ← repeated draw n
    pure (first :: rest)

/-- Draws once for every member of a list. -/
def forEach {α β : Type} (draw : α → Draws σ β) : List α → Draws σ (List β)
  | [] => pure []
  | a :: rest => do
    let first ← draw a
    let later ← forEach draw rest
    pure (first :: later)

theorem repeated_succ {α : Type} (draw : Draws σ α) (n : Nat) (s : σ) :
    repeated draw (n + 1) s =
      ((draw s).1 :: (repeated draw n (draw s).2).1, (repeated draw n (draw s).2).2) :=
  rfl

theorem length_repeated {α : Type} (draw : Draws σ α) (n : Nat) (s : σ) :
    (repeated draw n s).1.length = n := by
  induction n generalizing s with
  | zero => rfl
  | succ n ih => rw [repeated_succ, List.length_cons, ih]

theorem forEach_cons {α β : Type} (draw : α → Draws σ β) (a : α) (rest : List α) (s : σ) :
    forEach draw (a :: rest) s =
      ((draw a s).1 :: (forEach draw rest (draw a s).2).1, (forEach draw rest (draw a s).2).2) :=
  rfl

variable [RandomSource σ]

/-- Draws an integer from zero to `last`. -/
def upTo (last : Nat) : Draws σ (Fin (last + 1)) :=
  fun s => RandomSource.upTo s last

/-- Draws a fraction. -/
def fraction : Draws σ Float :=
  fun s => RandomSource.fraction s

/-- Draws a block of bytes. -/
def block (count : Nat) : Draws σ (Vector UInt8 count) :=
  fun s => RandomSource.block s count

end Draws

end TapeSwarm
