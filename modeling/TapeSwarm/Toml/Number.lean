import TapeSwarm.Decimal.Numeral
import TapeSwarm.Toml.Value

/-!
Numbers in settings files.

A number has a sign or none and any underscores. One with a point or a decimal exponent is a float
and has a digit in front and one after the point; `inf` and `nan` are floats, too. All others are
integers, in decimal or in another base after `0x`, `0o` or `0b`, and may have a second sign. The
value of an entry has to be tidy besides; the items of arrays need not be.
-/

namespace TapeSwarm.Toml.Number

open Decimal

/-- Whether a text holds one character right before another. -/
def holdsPair (a b : Char) (text : List Char) : Bool :=
  (text.zip text.tail).contains (a, b)

/-- Whether a text of two characters or more starts with a zero that none of some characters
follows. -/
def hasLooseZero (followers : List Char) : List Char → Bool
  | '0' :: c :: _ => !followers.contains c
  | _ => false

/-- Whether a number is written tidily: no zeros in front, no underscores at the ends, beside a
point or beside each other. Behind a sign only a point may follow a zero. -/
def isTidy (text : List Char) : Bool :=
  let text := Text.trim text
  !text.isEmpty && text.head? ≠ some '_' && text.getLast? ≠ some '_'
    && !holdsPair '_' '.' text && !holdsPair '.' '_' text
    && (text.length = 1
      || match text with
        | [] => true
        | c :: rest =>
          if c = '+' || c = '-' then !hasLooseZero ['.'] rest && !holdsPair '_' '_' rest
          else !hasLooseZero ['.', 'o', 'b', 'x'] text && !holdsPair '_' '_' text)

/-- Whether a number without sign and underscores is written as a float. -/
def looksFloat (text : List Char) : Bool :=
  text.contains '.' || (!text.contains 'x' && (text.contains 'e' || text.contains 'E'))

/-- Changes the sign of a float, but for zero. -/
def negated (x : Float) : Float := 0 - x

/-- Reads a float without sign and underscores: there are digits in front of a point and something
after it. -/
def readFloat? (text : List Char) : Option Float :=
  let afterPoint := (text.dropWhile (· ≠ '.')).drop 1
  if text.contains '.' && afterPoint.isEmpty then none
  else if (text.head?.map isDigit).getD false then Numeral.float? (Numeral.plain text)
  else none

/-- Whether a text is one of the words for floats. -/
def isWord (text : List Char) : Bool :=
  text.length = 3 && (Numeral.word? text).isSome

/-- Reads a number. -/
def read? (text : List Char) : Option Value :=
  let (negative, body) := splitSign text
  let body := body.filter (· ≠ '_')
  let signed (x : Float) : Value := .float (if negative then negated x else x)
  if looksFloat body then (readFloat? body).map signed
  else if isWord body then (Numeral.word? body).map signed
  else
    (Numeral.anyBase? (Numeral.plain body)).map fun n => .integer (if negative then -n else n)

/-- Whether a text is a float by itself, with underscores between digits only. -/
def isFloat (text : List Char) : Bool :=
  (Numeral.float? (Numeral.plain text)).isSome

end TapeSwarm.Toml.Number
