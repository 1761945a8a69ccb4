import TapeSwarm.Command.Arguments
import TapeSwarm.Random.Source
import TapeSwarm.Swarm.Basic

/-!
What a command leaves: an exit status and the lines it printed.
-/

namespace TapeSwarm.Command

/-- The end of a command. A command that runs to its end without setting a status has none. -/
structure Outcome where
  status : Option Nat
  lines : List String
  deriving DecidableEq, Repr

namespace Outcome

/-- Arguments that do not fit: nothing is printed. -/
def badUsage : Outcome := ⟨some 2, []⟩

/-- A failure that one line tells. -/
def failure (message : String) : Outcome := ⟨some 1, ["ERROR: " ++ message]⟩

/-- Success, with the lines printed. -/
def success (lines : List String) : Outcome := ⟨some 0, lines⟩

/-- All that was printed: every line ends with a line break. -/
def stdout (outcome : Outcome) : String :=
  String.join (outcome.lines.map (· ++ "\n"))

end Outcome

/-- What ends a command without an outcome. -/
inductive Escape where
  | random (fault : RandomFault)
  | founding (fault : Swarm.FoundingFault)
  /-- Chances were to be compared with a mutation rate that is too large. -/
  | rate (fault : Threshold.Fault)
  /-- The path of a file holds a zero character. -/
  | zeroInPath
  /-- Operations were to be divided by no time at all. -/
  | noTime
  /-- Steps were to be counted without a number of steps. -/
  | blankSteps
  /-- A pattern was to be shown without a size. -/
  | blankPattern
  /-- Ticks were to be counted up to no number. -/
  | blankTicks
  /-- Something was to be done as many times as no number says. -/
  | blankCount
  deriving DecidableEq, Repr

def Escape.message : Escape → String
  | random fault => fault.message
  | founding fault => fault.message
  | rate fault => fault.message
  | zeroInPath => "embedded null byte"
  | noTime => "float division by zero"
  | blankSteps => "'<' not supported between instances of 'int' and 'list'"
  | blankPattern => "slice indices must be integers or None or have an __index__ method"
  | blankTicks => "can only concatenate list (not \"int\") to list"
  | blankCount => "'list' object cannot be interpreted as an integer"

/-- The number of an amount that says how many times something is done. -/
def Amount.count : Amount → Except Escape Int
  | number n => .ok n
  | blank => .error .blankCount

end TapeSwarm.Command
