import TapeSwarm.Decimal.Numeral
import TapeSwarm.Toml.Fault

/-!
Reading days and times.

A time of day is written as in `07:32:00`, with a point and three to six digits behind it or none;
the digits are those of its millionths, and whatever follows does not count.

The numbers of a day, and of a day with a time, stand at fixed places, and what stands between them
does not count, but for one hyphen after the first character. A text of ten characters is a day.
Every other one has a time besides, whose last number ends with the nineteenth character. A fraction
of a second and a zone may follow; if one of them is not understood, both count as absent.

The fraction is looked at first, before it is known whether the text is a day at all. So a number
with a point at the twentieth character and more digits behind it than a double can hold is a fault,
even where it could have been read as a number.
-/

namespace TapeSwarm.Toml

open Decimal

/-- The integer that stands in a text from one place up to another. -/
def integerAt? (first last : Nat) (text : List Char) : Option Int :=
  Numeral.integer? (Numeral.plain ((text.take last).drop first))

/-- The natural number that stands in a text from one place up to another. -/
def naturalAt? (first last : Nat) (text : List Char) : Option Nat :=
  (integerAt? first last text).bind Int.toNat?

/-! ## Times of day -/

/-- The millionths that a point and three to six digits write. -/
def Clock.places : List Char → Nat
  | '.' :: rest =>
    let digits := (rest.take 6).takeWhile isDigit
    if digits.length < 3 then 0 else (ofDigits? 10 digits).getD 0
  | _ => 0

/-- The numbers of the time that a text starts with, which need not be one of a day. -/
def Clock.numbers? : List Char → Option (Nat × Nat × Nat × Nat)
  | h₁ :: h₂ :: ':' :: m₁ :: m₂ :: ':' :: s₁ :: s₂ :: rest => do
    let hour ← ofDigits? 10 [h₁, h₂]
    let minute ← ofDigits? 10 [m₁, m₂]
    let second ← ofDigits? 10 [s₁, s₂]
    some (hour, minute, second, places rest)
  | _ => none

/-! ## Days -/

/-- Reads a zone: `Z`, or a sign with hours and minutes two characters each. -/
def Zone.read? (text : List Char) : Option Zone :=
  if text = ['Z'] then some ⟨0⟩
  else do
    let hours ← integerAt? 1 3 text
    let minutes ← integerAt? 4 6 text
    let ahead := hours * 60 + minutes
    some ⟨if text.head? = some '-' then -ahead else ahead⟩

/-- A fraction of a second and the zone behind it, if there is one. -/
def splitZone (text : List Char) : List Char × Option (List Char) :=
  if text.getLast?.any (·.toUpper = 'Z') then (text.dropLast, some ['Z'])
  else if text.contains '+' then (text.takeWhile (· ≠ '+'), some (text.dropWhile (· ≠ '+')))
  else if text.contains '-' then (text.takeWhile (· ≠ '-'), some (text.dropWhile (· ≠ '-')))
  else (text, none)

/-- The millionths that a fraction writes. One of more than six characters is scaled down as a
double and cut off. -/
def millionths (fraction : List Char) : Except Fault (Option Int) :=
  match Numeral.integer? (Numeral.plain fraction) with
  | none => .ok none
  | some n =>
    let length := fraction.length
    if length ≤ 6 then .ok (some (n * (Nat.pow 10 (6 - length) : Nat)))
    else
      let x := Float.ofInt n
      if x.isInf then .error .longFraction
      else .ok (some (x * nearest 1 1 (6 - (length : Int))).toInt64.toInt)

/-- The millionths and the zone that follow the seconds of a time. -/
def afterSeconds (text : List Char) : Except Fault (Int × Option Zone) :=
  match text with
  | [] => .ok (0, none)
  | '.' :: rest =>
    let (fraction, zone) := splitZone rest
    let read := zone.map Zone.read?
    if read = some none then .ok (0, none)
    else do
      match ← millionths fraction with
      | some n => .ok (n, read.join)
      | none => .ok (0, none)
  | zone => .ok (0, Zone.read? zone)

/-- The day at the start of a text. -/
def Date.read? (text : List Char) : Option Date := do
  let year ← naturalAt? 0 4 text
  let month ← naturalAt? 5 7 text
  let day ← naturalAt? 8 10 text
  Date.ofNumbers? year month day

/-- The time behind the day of a text, with the millionths that it has. -/
def Clock.read? (text : List Char) (microsecond : Int) : Option Clock := do
  let hour ← naturalAt? 11 13 text
  let minute ← naturalAt? 14 16 text
  let second ← naturalAt? 17 19 text
  let microsecond ← microsecond.toNat?
  Clock.ofNumbers? hour minute second microsecond

/-- Reads a day, with a time or without. -/
def Moment.dated? (text : List Char) : Except Fault (Option Moment) := do
  let (microsecond, zone) ← afterSeconds (text.drop 19)
  if !text.tail.contains '-' then .ok none
  else
    let date := Date.read? text
    if text.length = 10 then .ok (date.map .date)
    else
      .ok (date.bind fun date =>
        (Clock.read? text microsecond).map fun clock => .dateTime date clock zone)

/-! ## Moments -/

/-- Whether a text starts like a time of day, or is a day. -/
def Moment.isWritten (text : List Char) : Except Fault Bool := do
  let dated ← Moment.dated? text
  .ok (dated.isSome || (Clock.numbers? text).isSome)

/-- Reads a moment. A text that starts like a time of day is nothing else. -/
def Moment.read? (text : List Char) : Except Fault (Option Moment) :=
  match Clock.numbers? text with
  | none => Moment.dated? text
  | some (hour, minute, second, microsecond) =>
    match Clock.ofNumbers? hour minute second microsecond with
    | some clock => .ok (some (.time clock))
    | none => .error .badTime

end TapeSwarm.Toml
