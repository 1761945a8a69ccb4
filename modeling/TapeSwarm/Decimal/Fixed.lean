import TapeSwarm.Decimal.Exact

/-!
Decimals with a fixed number of places.

The exact value of a double is rounded to the nearest multiple of the last place; a value half way
between two of them goes to the even one.
-/

namespace TapeSwarm.Decimal

/-- The whole number nearest to a value that is not negative; half way, the even one. -/
def roundHalfEven (x : Rat) : Nat :=
  let low := x.floor.toNat
  let rest := x - low
  if rest < 1 / 2 then low
  else if 1 / 2 < rest then low + 1
  else if low % 2 = 0 then low else low + 1

/-- A number of units of the last place, written with a point; at least one digit stands before
it. -/
def placed (places units : Nat) : String :=
  let digits := Nat.toDigits 10 units
  let digits := List.replicate (places + 1 - digits.length) '0' ++ digits
  let whole := digits.take (digits.length - places)
  if places = 0 then String.ofList whole
  else String.ofList (whole ++ '.' :: digits.drop (digits.length - places))

/-- A double with a fixed number of places. -/
def fixed (places : Nat) (x : Float) : String :=
  match Binary.ofFloat? x with
  | none => if x.isNaN then "nan" else if x < 0 then "-inf" else "inf"
  | some b =>
    (if b.negative then "-" else "")
      ++ placed places (roundHalfEven (b.magnitude * power 10 places))

end TapeSwarm.Decimal
