import TapeSwarm.Machine.Snapshot
import TapeSwarm.Phenotype.Scale

/-!
How an organism behaves after a run of its tape.

The first two cells give a heading and the next four the style of movement; the operations give the
activity, the sum of memory the social tendency and the output an influence of its own. Only a few
residues of a snapshot matter.
-/

namespace TapeSwarm

/-- The behaviour of an organism. -/
structure Traits where
  heading : Float
  activity : Float
  social : Float
  orbital : Float
  wander : Float
  aggression : Float
  speed : Float
  outputInfluence : Float
  deriving Repr

namespace Traits

open Scale

/-- The behaviour of whoever has not run a tape. -/
def dormant : Traits where
  heading := 0
  activity := 0.1
  social := 0
  orbital := 0
  wander := 0
  aggression := 0
  speed := 0.3
  outputInfluence := 0

/-- The residue modulo 256 of the cell at an index of a pattern; beyond its end there are zeros. -/
def residue (pattern : List Int) (index : Nat) : Int :=
  (pattern[index]?.getD 0) % 256

/-- A byte on a scale. -/
def ofByte (value : Int) (lo hi : Float) : Float :=
  rescale (Float.ofInt value) 0 255 lo hi

/-- The operations that count towards activity. -/
def counted (operations : Int) : Int :=
  max 0 (min 100 operations)

/-- The behaviour that a snapshot calls for. -/
def ofSnapshot (s : Snapshot) : Traits where
  heading := Float.atan2 (ofByte (residue s.pattern 1) (-1) 1) (ofByte (residue s.pattern 0) (-1) 1)
  activity := rescale (Float.ofInt (counted s.operations)) 0 100 0.1 1
  social := rescale (Float.ofInt (s.memorySum % 1000)) 0 1000 0 1
  orbital := ofByte (residue s.pattern 2) 0 1
  wander := ofByte (residue s.pattern 3) 0 1
  aggression := ofByte (residue s.pattern 4) 0 1
  speed := ofByte (residue s.pattern 5) 0.3 1.5
  outputInfluence :=
    if s.output.isEmpty then 0 else ofByte (s.output.foldr (· + ·) 0 % 256) (-0.2) 0.2

end Traits

end TapeSwarm
