import TapeSwarm.Decimal.Digits
import TapeSwarm.Decimal.Nearest
import TapeSwarm.Text.Blank

/-!
Numerals: numbers as they are written for a program to read.

A numeral may be written in the decimal digits of any script, and blanks may stand at both ends. Its
plain form has the digits of ASCII and no blanks at its ends; the readers take plain forms. Integers
with too many digits are not read, whatever their value.
-/

namespace TapeSwarm.Decimal.Numeral

/-- The code points of the zeros beyond ASCII. The digits up to nine follow each of them. -/
def zeros : List Nat :=
  [
    0x660, 0x6f0, 0x7c0, 0x966, 0x9e6, 0xa66, 0xae6, 0xb66, 0xbe6, 0xc66, 0xce6, 0xd66, 0xde6,
    0xe50, 0xed0, 0xf20, 0x1040, 0x1090, 0x17e0, 0x1810, 0x1946, 0x19d0, 0x1a80, 0x1a90, 0x1b50,
    0x1bb0, 0x1c40, 0x1c50, 0xa620, 0xa8d0, 0xa900, 0xa9d0, 0xa9f0, 0xaa50, 0xabf0, 0xff10,
    0x104a0, 0x10d30, 0x11066, 0x110f0, 0x11136, 0x111d0, 0x112f0, 0x11450, 0x114d0, 0x11650,
    0x116c0, 0x11730, 0x118e0, 0x11950, 0x11c50, 0x11d50, 0x11da0, 0x16a60, 0x16ac0, 0x16b50,
    0x1d7ce, 0x1d7d8, 0x1d7e2, 0x1d7ec, 0x1d7f6, 0x1e140, 0x1e2f0, 0x1e950, 0x1fbf0
  ]

/-- The value of a decimal digit of any script beyond ASCII. -/
def foreignDigit? (c : Char) : Option Nat :=
  zeros.findSome? fun first =>
    if first ≤ c.toNat ∧ c.toNat < first + 10 then some (c.toNat - first) else none

/-- Whether a character is a decimal digit of any script. -/
def isAnyDigit (c : Char) : Bool :=
  isDigit c || (foreignDigit? c).isSome

/-- A character as it counts in a numeral: a digit as that of ASCII, a blank beyond ASCII as a
space. -/
def plainChar (c : Char) : Char :=
  if c.toNat < 128 then c
  else if Text.isBlank c then ' '
  else
    match foreignDigit? c with
    | some value => Char.ofNat ('0'.toNat + value)
    | none => c

/-- Whether a character is dropped at the ends of a plain form: a space, or a break of a line, a
page or a column. -/
def isOuterBlank (c : Char) : Bool :=
  c = ' ' || ('\t' ≤ c && c ≤ '\r')

/-- The plain form of a text. -/
def plain (text : List Char) : List Char :=
  let dropBlanks := List.dropWhile isOuterBlank
  (dropBlanks (dropBlanks (text.map plainChar)).reverse).reverse

/-- Integers of more decimal digits than this are not read. -/
def longest : Nat := 4300

/-- Reads decimal digits. -/
def natural? (digits : List Char) : Option Nat :=
  if digits.isEmpty || longest < digits.length then none else ofDigits? 10 digits

/-- Reads an integer from a plain form: a sign, and digits with single underscores between them. -/
def integer? (text : List Char) : Option Int :=
  let (negative, body) := splitSign text
  ((dropJoints? false body).bind natural?).map (applySign negative)

/-- Reads the digits of a base. -/
def inBase? (base : Nat) (digits : List Char) : Option Nat :=
  if digits.isEmpty then none else ofDigits? base digits

/-- Reads a number without a sign: in base sixteen after `0x`, eight after `0o` and two after `0b`,
else in decimal, where only zero itself may start with a zero. -/
def prefixed? : List Char → Option Nat
  | '0' :: mark :: digits =>
    if mark = 'x' || mark = 'X' then inBase? 16 digits
    else if mark = 'o' || mark = 'O' then inBase? 8 digits
    else if mark = 'b' || mark = 'B' then inBase? 2 digits
    else (natural? ('0' :: mark :: digits)).filter (· = 0)
  | digits => natural? digits

/-- Reads an integer with a sign in any of the bases from a plain form. -/
def anyBase? (text : List Char) : Option Int :=
  let (negative, body) := splitSign text
  (prefixed? body).map (applySign negative)

/-- The exponent at the end of a float: none counts as zero. -/
def exponent? : List Char → Option Int
  | [] => some 0
  | e :: rest =>
    if e = 'e' ∨ e = 'E' then
      let (negative, digits) := splitSign rest
      if digits.isEmpty then none else (ofDigits? 10 digits).map (applySign negative)
    else none

/-- Reads a float without sign and underscores: digits with a point or none, and an exponent. -/
def unsigned? (text : List Char) : Option Float :=
  let whole := text.takeWhile isDigit
  let rest := text.dropWhile isDigit
  let (places, rest) := match rest with
    | '.' :: rest => (rest.takeWhile isDigit, rest.dropWhile isDigit)
    | rest => ([], rest)
  if whole.isEmpty && places.isEmpty then none
  else
    match ofDigits? 10 (whole ++ places), exponent? rest with
    | some digits, some exponent =>
      some (nearest digits (whole.length + places.length) (exponent - places.length))
    | _, _ => none

/-- The words for numbers that have no digits. -/
def word? (text : List Char) : Option Float :=
  match text.map Char.toLower with
  | ['i', 'n', 'f'] | ['i', 'n', 'f', 'i', 'n', 'i', 't', 'y'] => some (1.0 / 0.0)
  | ['n', 'a', 'n'] => some (0.0 / 0.0)
  | _ => none

/-- Reads a float from a plain form: a sign, then a word or digits with single underscores between
them. -/
def float? (text : List Char) : Option Float :=
  (dropJoints? false text).bind fun text =>
    let (negative, body) := splitSign text
    ((word? body).or (unsigned? body)).map fun x => if negative then -x else x

end TapeSwarm.Decimal.Numeral
