/-!
Numbers and bytes in hexadecimal, in lower case.
-/

namespace TapeSwarm.Text

/-- A number in hexadecimal, with zeros in front up to `width` digits. -/
def hexadecimal (width n : Nat) : String :=
  let digits := Nat.toDigits 16 n
  String.ofList (List.replicate (width - digits.length) '0' ++ digits)

/-- Bytes in hexadecimal, two digits each. -/
def hexadecimalBytes (bytes : List UInt8) : String :=
  String.join (bytes.map fun b => hexadecimal 2 b.toNat)

end TapeSwarm.Text
