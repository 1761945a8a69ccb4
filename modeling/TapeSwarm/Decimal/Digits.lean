/-!
Digits and the numbers they write.
-/

namespace TapeSwarm.Decimal

/-- The value of a digit in any base up to sixteen. -/
def digitValue? (c : Char) : Option Nat :=
  if '0' ≤ c ∧ c ≤ '9' then some (c.toNat - '0'.toNat)
  else if 'a' ≤ c ∧ c ≤ 'f' then some (c.toNat - 'a'.toNat + 10)
  else if 'A' ≤ c ∧ c ≤ 'F' then some (c.toNat - 'A'.toNat + 10)
  else none

/-- The value of a digit below a base. -/
def digitBelow? (base : Nat) (c : Char) : Option Nat :=
  (digitValue? c).filter (· < base)

/-- The number that digits of a base write; `none` where one of them is no digit. -/
def ofDigits? (base : Nat) (digits : List Char) : Option Nat :=
  digits.foldlM (fun n c => (digitBelow? base c).map (n * base + ·)) 0

/-- Whether a character is a decimal digit of ASCII. -/
def isDigit (c : Char) : Bool :=
  (digitBelow? 10 c).isSome

/-- A text without its underscores, each of which has to stand between two digits; `digitBefore`
says whether a digit stands before the text. -/
def dropJoints? (digitBefore : Bool) : List Char → Option (List Char)
  | [] => some []
  | c :: rest =>
    if c = '_' then
      if digitBefore && (rest.head?.map isDigit).getD false then dropJoints? false rest else none
    else (dropJoints? (isDigit c) rest).map (c :: ·)

/-- A sign in front of a number, and what follows it. -/
def splitSign : List Char → Bool × List Char
  | '-' :: rest => (true, rest)
  | '+' :: rest => (false, rest)
  | text => (false, text)

/-- A number under its sign. -/
def applySign (negative : Bool) (n : Nat) : Int :=
  if negative then -(n : Int) else n

end TapeSwarm.Decimal
