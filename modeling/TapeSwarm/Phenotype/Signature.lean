import TapeSwarm.Phenotype.Scale

/-!
The fingerprint of a text.

A polynomial hash in words of 32 bits, read as a signed number, of whose absolute value the last
four decimal digits make a fraction.
-/

namespace TapeSwarm.Signature

/-- The hash after one more code point: 31 times the hash so far, and the code point. -/
def extend (h : UInt32) (code : Nat) : UInt32 :=
  h * 31 + code.toUInt32

/-- The hash of a sequence of code points. -/
def hash (codes : List Nat) : UInt32 :=
  codes.foldl extend 0

/-- A word of 32 bits as a signed number. -/
def signed (h : UInt32) : Int :=
  if h.toNat < 2147483648 then h.toNat else (h.toNat : Int) - 4294967296

/-- The last four decimal digits of the signed hash. -/
def digits (codes : List Nat) : Nat :=
  (signed (hash codes)).natAbs % 10000

/-- The fingerprint of a sequence of code points: a fraction with four digits. -/
def ofCodes (α : Type) [Div α] [IntCast α] (codes : List Nat) : α :=
  Scale.ofInt (digits codes) / Scale.ofInt 10000

end TapeSwarm.Signature
