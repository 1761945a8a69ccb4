/-!
Thresholds: the numbers below which a fraction has to be.

A threshold may be written as an integer that no double holds. Nothing can be compared with it then.
-/

namespace TapeSwarm

/-- A number that fractions are compared with. -/
inductive Threshold where
  | double (x : Float)
  /-- An integer that is too large for a double. -/
  | tooLarge (negative : Bool)
  deriving Repr

namespace Threshold

/-- Why there is no comparison. -/
inductive Fault where
  | tooLarge
  deriving DecidableEq, Repr

/-- The words for a fault. -/
def Fault.message : Fault → String
  | tooLarge => "int too large to convert to float"

/-- The threshold that an integer writes. -/
def ofInt (n : Int) : Threshold :=
  let x := Float.ofInt n
  if x.isInf then .tooLarge (n < 0) else .double x

/-- Whether a threshold is zero or less, which can be told of every one. -/
def isAtMostZero : Threshold → Bool
  | double x => x ≤ 0
  | tooLarge negative => negative

/-- Checks that fractions can be compared with a threshold. -/
def check : Threshold → Except Fault Float
  | double x => .ok x
  | tooLarge _ => .error .tooLarge

/-- The double that stands for a threshold where comparisons do not matter: no fraction is below it
if the threshold is too large, and it keeps the sign of a negative one. -/
def limit : Threshold → Float
  | double x => x
  | tooLarge negative => if negative then -1.0 / 0.0 else 0.0 / 0.0

end Threshold

end TapeSwarm
