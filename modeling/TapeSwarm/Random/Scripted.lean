import TapeSwarm.Random.Source

/-!
A source that replays two written lists, one of integers and one of fractions.

Each list is read in a circle. A draw takes the next entry of its list, also where only one answer
is possible; an integer is brought below its bound by the remainder.
-/

namespace TapeSwarm

/-- The lists, and how many entries of each were taken so far. -/
structure Scripted where
  integers : Array Int
  fractions : Array Float
  integersTaken : Nat
  fractionsTaken : Nat

namespace Scripted

/-- A script from its start; an empty list stands for a single zero. -/
def ofLists (integers : List Int) (fractions : List Float) : Scripted :=
  ⟨integers.toArray, fractions.toArray, 0, 0⟩

/-- The next entry of the list of integers. -/
def nextInteger (s : Scripted) : Int × Scripted :=
  (s.integers[s.integersTaken % s.integers.size]?.getD 0,
    { s with integersTaken := s.integersTaken + 1 })

/-- The next entry of the list of fractions. -/
def nextFraction (s : Scripted) : Float × Scripted :=
  (s.fractions[s.fractionsTaken % s.fractions.size]?.getD 0,
    { s with fractionsTaken := s.fractionsTaken + 1 })

/-- The next integer, brought down to at most `last`. -/
def nextUpTo (s : Scripted) (last : Nat) : Fin (last + 1) × Scripted :=
  let (value, s) := s.nextInteger
  (⟨(value % (last + 1 : Nat)).toNat % (last + 1), Nat.mod_lt _ (Nat.succ_pos last)⟩, s)

/-- A block of bytes, each from one integer. -/
def nextBlock (s : Scripted) : (count : Nat) → Vector UInt8 count × Scripted
  | 0 => (#v[], s)
  | n + 1 =>
    let (earlier, s) := nextBlock s n
    let (value, s) := s.nextUpTo 255
    (earlier.push (UInt8.ofNat value.val), s)

instance : RandomSource Scripted where
  upTo := nextUpTo
  fraction := nextFraction
  block := nextBlock
  countBytes _ n := .ok n.toNat
  countChoices _ n := .ok n.toNat

end Scripted

end TapeSwarm
