/-!
Days, times of day and zones, which values of settings files may be.

The numbers of a day and of a time are checked when they are put together, so no value of these
types stands outside of the calendar or of the clock. A zone is not checked.
-/

namespace TapeSwarm.Toml

/-- Whether a year has a day more. -/
def isLeap (year : Nat) : Bool :=
  year % 4 = 0 && (year % 100 ≠ 0 || year % 400 = 0)

/-- How many days a month of a year has. -/
def daysIn (year month : Nat) : Nat :=
  if month = 2 then if isLeap year then 29 else 28
  else if [4, 6, 9, 11].contains month then 30
  else 31

/-- A day of the calendar. -/
structure Date where
  year : Nat
  month : Nat
  day : Nat
  year_mem : 1 ≤ year ∧ year ≤ 9999
  month_mem : 1 ≤ month ∧ month ≤ 12
  day_mem : 1 ≤ day ∧ day ≤ daysIn year month
  deriving DecidableEq, Repr

/-- The day that three numbers name. -/
def Date.ofNumbers? (year month day : Nat) : Option Date :=
  if inYears : 1 ≤ year ∧ year ≤ 9999 then
    if inMonths : 1 ≤ month ∧ month ≤ 12 then
      if inDays : 1 ≤ day ∧ day ≤ daysIn year month then
        some ⟨year, month, day, inYears, inMonths, inDays⟩
      else none
    else none
  else none

/-- A time of day. -/
structure Clock where
  hour : Nat
  minute : Nat
  second : Nat
  microsecond : Nat
  hour_lt : hour < 24
  minute_lt : minute < 60
  second_lt : second < 60
  microsecond_lt : microsecond < 1000000
  deriving DecidableEq, Repr

/-- The time that four numbers name. -/
def Clock.ofNumbers? (hour minute second microsecond : Nat) : Option Clock :=
  if ofDay : hour < 24 ∧ minute < 60 ∧ second < 60 ∧ microsecond < 1000000 then
    some ⟨hour, minute, second, microsecond, ofDay.1, ofDay.2.1, ofDay.2.2.1, ofDay.2.2.2⟩
  else none

/-- How far the clocks of a zone are ahead of universal time. -/
structure Zone where
  minutes : Int
  deriving DecidableEq, Repr

/-- A day, a time of day, or both. -/
inductive Moment where
  | date (date : Date)
  | dateTime (date : Date) (clock : Clock) (zone : Option Zone)
  | time (clock : Clock)
  deriving DecidableEq, Repr

/-- A number written with so many digits or more. -/
def padded (length n : Nat) : String :=
  let digits := Nat.toDigits 10 n
  String.ofList (List.replicate (length - digits.length) '0' ++ digits)

/-- A day as it is written. -/
def Date.text (d : Date) : String :=
  padded 4 d.year ++ "-" ++ padded 2 d.month ++ "-" ++ padded 2 d.day

/-- A time of day as it is written; millionths are left out where there are none. -/
def Clock.text (c : Clock) : String :=
  padded 2 c.hour ++ ":" ++ padded 2 c.minute ++ ":" ++ padded 2 c.second
    ++ if c.microsecond = 0 then "" else "." ++ padded 6 c.microsecond

/-- A zone as it is written. -/
def Zone.text (z : Zone) : String :=
  let minutes := z.minutes.natAbs
  (if z.minutes < 0 then "-" else "+") ++ padded 2 (minutes / 60) ++ ":" ++ padded 2 (minutes % 60)

/-- A moment as it is written. -/
def Moment.text : Moment → String
  | date d => d.text
  | dateTime d c zone => d.text ++ "T" ++ c.text ++ ((zone.map Zone.text).getD "")
  | time c => c.text

end TapeSwarm.Toml
