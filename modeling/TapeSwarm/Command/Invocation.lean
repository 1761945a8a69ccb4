import TapeSwarm.Command.Arguments
import TapeSwarm.Command.Run
import TapeSwarm.Command.Tick
import TapeSwarm.Random.Permuted

/-!
Command lines: what arguments ask for, and what comes of it.
-/

namespace TapeSwarm.Command

/-- An option of a name without its hyphens. -/
def named (name : String) (takesValue : Bool) : OptionName :=
  ⟨'-' :: '-' :: name.toList, takesValue⟩

def verboseOption : OptionName := named "verbose" false
def fileOption : OptionName := named "file" false
def stepsOption : OptionName := named "steps" true
def inputOption : OptionName := named "input" true
def patternOption : OptionName := named "pattern" true
def ticksOption : OptionName := named "ticks" true
def organismsOption : OptionName := named "organisms" true
def foodOption : OptionName := named "food" true
def seedOption : OptionName := named "seed" true

/-- The steps of a run where neither arguments nor settings say otherwise. -/
def defaultSteps : Int := 1000

/-- The ticks of a swarm where arguments do not say otherwise. -/
def defaultTicks : Int := 512

/-- A command line that was understood. -/
inductive Invocation where
  | run (request : RunRequest)
  | tick (request : TickRequest)
  deriving Repr

/-- Understands the arguments of a run. -/
def RunRequest.ofArguments? (settings : Settings) (arguments : List (List Char)) :
    Option RunRequest := do
  let options := [fileOption, stepsOption, inputOption, patternOption]
  let given ← collect true {} (classifyAll options arguments)
  let text ← given.positional
  let steps ← given.amount? stepsOption
  let pattern ← given.amount? patternOption
  some
    { program := if given.has fileOption then .file text else .inline text
      steps := steps.getD (.number (settings.machine.maxSteps.getD defaultSteps))
      input := given.text inputOption
      patternSize :=
        pattern.getD (.number (settings.machine.patternSize.getD Snapshot.defaultPatternSize)) }

/-- Understands the arguments of ticking a swarm. -/
def TickRequest.ofArguments? (arguments : List (List Char)) : Option TickRequest := do
  let options := [ticksOption, organismsOption, foodOption, seedOption]
  let given ← collect false {} (classifyAll options arguments)
  let ticks ← given.amount? ticksOption
  let organisms ← given.amount? organismsOption
  let food ← given.amount? foodOption
  let seed ← given.amount? seedOption
  some { ticks := ticks.getD (.number defaultTicks), organisms, food, seed }

/-- Drops the switches that may stand before a command; nothing else may. -/
def dropSwitches : List (List Char) → Option (List (List Char))
  | [] => some []
  | text :: rest =>
    if text = ['-', '-'] then none
    else
      match classify [verboseOption] text with
      | .option _ none => dropSwitches rest
      | .word _ => some (text :: rest)
      | _ => none

/-- Understands a command line. -/
def Invocation.ofArguments? (settings : Settings) (arguments : List String) :
    Option Invocation := do
  match ← dropSwitches (arguments.map String.toList) with
  | [] => none
  | command :: rest =>
    if command = ['r', 'u', 'n'] then (RunRequest.ofArguments? settings rest).map .run
    else if command = ['s', 'w', 'a', 'r', 'm'] then (TickRequest.ofArguments? rest).map .tick
    else none

/-- What comes of a command line in a number of bytes. -/
def perform (room : Nat) (settings : Settings) (reading : Storage.Reading) (entropy : Nat)
    (arguments : List String) : Except Escape Outcome :=
  match Invocation.ofArguments? settings arguments with
  | none => .ok .badUsage
  | some (.run request) => request.run reading
  | some (.tick request) => request.run room Permuted.ofSeed settings entropy

end TapeSwarm.Command
