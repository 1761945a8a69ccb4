/-!
The exact value of a double.
-/

namespace TapeSwarm.Decimal

/-- A power with any exponent. -/
def power (base : Nat) (e : Int) : Rat :=
  if 0 ≤ e then (Nat.pow base e.toNat : Rat) else 1 / (Nat.pow base (-e).toNat : Rat)

/-- A finite double as a sign, a whole number and a power of two. -/
structure Binary where
  negative : Bool
  mantissa : Nat
  exponent : Int
  deriving DecidableEq, Repr

namespace Binary

/-- The highest bit of a mantissa of full length, which a double leaves out. -/
def hidden : Nat := 4503599627370496

/-- The parts of a finite double; infinities and what is no number have none. -/
def ofFloat? (x : Float) : Option Binary :=
  let bits := x.toBits.toNat
  let negative := 9223372036854775808 ≤ bits
  let biased : Nat := bits / hidden % 2048
  let fraction : Nat := bits % hidden
  if biased = 2047 then none
  else if biased = 0 then some ⟨negative, fraction, -1074⟩
  else some ⟨negative, fraction + hidden, (biased : Int) - 1075⟩

/-- The value without its sign. -/
def magnitude (b : Binary) : Rat :=
  (b.mantissa : Rat) * power 2 b.exponent

/-- The value. -/
def value (b : Binary) : Rat :=
  if b.negative then -b.magnitude else b.magnitude

end Binary

/-- The exact value of a finite double; `0` for what is not finite. -/
def exact (x : Float) : Rat :=
  ((Binary.ofFloat? x).map Binary.value).getD 0

end TapeSwarm.Decimal
