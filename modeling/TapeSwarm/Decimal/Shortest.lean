import TapeSwarm.Decimal.Exact

/-!
The shortest decimal that reads back as a double.

Around a double lies the interval of reals that round to it. For one digit, two digits and so on the
double's two neighbours on the decimal grid are tried; the first grid with a neighbour inside the
interval gives the digits, and of two neighbours inside it the nearer one. The ends of the interval
belong to it where the double's whole number is even.
-/

namespace TapeSwarm.Decimal

/-- The reals that round to a double. -/
structure Rounding where
  low : Rat
  high : Rat
  closed : Bool

namespace Rounding

/-- The interval around a positive double; below a power of two its neighbour is nearer. -/
def ofBinary (b : Binary) : Rounding :=
  let unit := power 2 b.exponent
  let below := if b.mantissa = Binary.hidden ∧ -1074 < b.exponent then unit / 4 else unit / 2
  ⟨b.magnitude - below, b.magnitude + unit / 2, b.mantissa % 2 = 0⟩

def contains (r : Rounding) (y : Rat) : Bool :=
  if r.closed then r.low ≤ y && y ≤ r.high else r.low < y && y < r.high

end Rounding

/-- The exponent of the first digit of a positive number of the size of a double. -/
def leadingExponent (x : Rat) : Int :=
  (Nat.toDigits 10 (x * power 10 400).floor.toNat).length - 401

/-- A number of units of `10 ^ -scale`. -/
structure Grid where
  units : Nat
  scale : Int
  deriving DecidableEq, Repr

/-- The nearer of a value's two neighbours on a grid, of those that an interval contains. -/
def neighbour? (x : Rat) (r : Rounding) (scale : Int) : Option Grid :=
  let below := (x * power 10 scale).floor.toNat
  let inside (units : Nat) := r.contains (units * power 10 (-scale))
  let lower := x - below * power 10 (-scale)
  let upper := (below + 1 : Nat) * power 10 (-scale) - x
  if inside below && (!inside (below + 1) || lower < upper || (lower == upper && below % 2 == 0))
  then some ⟨below, scale⟩
  else if inside (below + 1) then some ⟨below + 1, scale⟩
  else none

/-- The first of the grids with `digits` digits and more that has a neighbour inside. -/
def shortestFrom (x : Rat) (r : Rounding) (first : Int) : Nat → Nat → Grid
  | 0, digits => ⟨(x * power 10 (digits - 1 - first)).floor.toNat, digits - 1 - first⟩
  | fuel + 1, digits =>
    match neighbour? x r (digits - 1 - first) with
    | some g => g
    | none => shortestFrom x r first fuel (digits + 1)

/-- The digits without zeros at the end, and the place of the point counted from their front. -/
def Grid.digits (g : Grid) : List Char × Int :=
  let all := Nat.toDigits 10 g.units
  ((all.reverse.dropWhile (· = '0')).reverse, all.length - g.scale)

/-- Digits with a point at a place: from `0.0001` up to sixteen places positionally, else with an
exponent of at least two digits. -/
def layout (digits : List Char) (point : Int) : String :=
  if -4 < point ∧ point ≤ 0 then
    "0." ++ String.ofList (List.replicate (-point).toNat '0' ++ digits)
  else if 0 < point ∧ point ≤ 16 then
    let whole := digits.take point.toNat
    let whole := whole ++ List.replicate (point.toNat - whole.length) '0'
    let rest := digits.drop point.toNat
    String.ofList (whole ++ '.' :: (if rest.isEmpty then ['0'] else rest))
  else
    let e := point - 1
    let size := Nat.toDigits 10 e.natAbs
    let size := if size.length < 2 then '0' :: size else size
    String.ofList
      (digits.take 1 ++ (if digits.length ≤ 1 then [] else '.' :: digits.drop 1)
        ++ ['e', if e < 0 then '-' else '+'] ++ size)

/-- The shortest decimal that reads back as a double. -/
def shortest (x : Float) : String :=
  match Binary.ofFloat? x with
  | none => if x.isNaN then "nan" else if x < 0 then "-inf" else "inf"
  | some b =>
    let body :=
      if b.mantissa = 0 then "0.0"
      else
        let value := b.magnitude
        let g := shortestFrom value (Rounding.ofBinary b) (leadingExponent value) 17 1
        let (digits, point) := g.digits
        layout digits point
    (if b.negative then "-" else "") ++ body

end TapeSwarm.Decimal
