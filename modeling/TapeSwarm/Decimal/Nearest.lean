/-!
The double nearest to a decimal.
-/

namespace TapeSwarm.Decimal

/-- Beyond this power of ten every number but zero is infinite. -/
def largestExponent : Int := 310

/-- The double nearest to `digits * 10 ^ exponent`, where `digits` is written with `length` digits.
Numbers that are far too large or too small are not computed. -/
def nearest (digits length : Nat) (exponent : Int) : Float :=
  if digits = 0 then 0
  else if largestExponent < exponent then 1.0 / 0.0
  else if exponent + length < -400 then 0
  else if 0 ≤ exponent then Float.ofScientific digits false exponent.toNat
  else Float.ofScientific digits true (-exponent).toNat

end TapeSwarm.Decimal
