import TapeSwarm.Swarm.Basic

/-!
The numbers that sum up a swarm.
-/

namespace TapeSwarm

/-- A swarm in numbers. -/
structure Stats where
  tick : Nat
  organisms : Nat
  food : Nat
  meanOperations : Float
  meanComplexity : Float
  outputBytes : Nat
  deriving Repr

namespace Swarm

variable {σ : Type} [RandomSource σ]

/-- The mean of integers; the mean of none is zero. -/
def mean (values : List Int) : Float :=
  if values.isEmpty then 0
  else Float.ofInt (values.foldr (· + ·) 0) / Float.ofInt values.length

/-- A swarm in numbers: the means are over organisms, the output is everybody's. -/
def stats (swarm : Swarm σ) : Stats where
  tick := swarm.tick
  organisms := swarm.organisms.length
  food := swarm.food.length
  meanOperations := mean (swarm.organisms.map (·.lastSnapshot.operations))
  meanComplexity := mean (swarm.organisms.map fun e => (e.complexity : Int))
  outputBytes := swarm.entities.foldr (fun e total => e.lastSnapshot.output.length + total) 0

/-- Whether there are organisms, none of which carries an instruction. -/
def isInert (swarm : Swarm σ) : Bool :=
  !swarm.organisms.isEmpty && swarm.organisms.all (·.complexity = 0)

end Swarm

end TapeSwarm
