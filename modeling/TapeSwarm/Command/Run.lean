import TapeSwarm.Command.Outcome
import TapeSwarm.Machine.Snapshot
import TapeSwarm.Storage.Path

/-!
The command that runs one program and prints what a snapshot of it shows.

A program file is read first, then the input is fed, then the program is looked at; the first of
these to fail is reported, and nothing is printed before. Steps without a number end the command as
soon as there is an instruction to count, a pattern without a size once the program was run.
-/

namespace TapeSwarm.Command

/-- Where a program comes from. -/
inductive ProgramText where
  | inline (text : List Char)
  | file (path : List Char)
  deriving DecidableEq, Repr

/-- What the command was asked to do. -/
structure RunRequest where
  program : ProgramText
  steps : Amount
  input : List Char
  patternSize : Amount
  deriving Repr

/-- Integers in brackets. -/
def listed (values : List Int) : String :=
  "[" ++ ", ".intercalate (values.map toString) ++ "]"

/-- The lines that show a snapshot. -/
def snapshotLines (s : Snapshot) : List String :=
  [ "operations=" ++ toString s.operations,
    "memory_sum=" ++ toString s.memorySum,
    "memory_pattern=" ++ listed s.pattern,
    "output=" ++ listed s.output ]

/-- The four lines of a snapshot, letter by letter. -/
theorem snapshotLines_eq (s : Snapshot) :
    snapshotLines s =
      [ "operations=" ++ toString s.operations,
        "memory_sum=" ++ toString s.memorySum,
        "memory_pattern=[" ++ ", ".intercalate (s.pattern.map toString) ++ "]",
        "output=[" ++ ", ".intercalate (s.output.map toString) ++ "]" ] := by
  simp only [snapshotLines, listed, ← String.append_assoc, String.reduceAppend]

namespace RunRequest

/-- What the run of a tape may spend. -/
def budget (request : RunRequest) (tape : Tape) : Except Escape Budget :=
  match request.steps with
  | .number steps => .ok (Budget.ofInt steps)
  | .blank => if tape.isEmpty then .ok (Budget.ofInt 0) else .error .blankSteps

/-- Runs a tape on a new machine that was fed the input. -/
def runTape (request : RunRequest) (input : List UInt8) (tape : Tape) : Except Escape Outcome := do
  let machine := (Machine.blank Machine.defaultSize Machine.defaultSize_pos).feed input
  let done := machine.runClean tape (← request.budget tape)
  match request.patternSize with
  | .number size => .ok (.success (snapshotLines (done.snapshot size)))
  | .blank => .error .blankPattern

/-- Runs whatever a source holds. -/
def runSource (request : RunRequest) (program : Source) : Except Escape Outcome :=
  match (Source.text request.input).read with
  | .error fault => .ok (.failure fault.message)
  | .ok input =>
    match program.read with
    | .error fault => .ok (.failure fault.message)
    | .ok tape => request.runTape input tape

/-- Carries out the command; `reading` is how files are read. -/
def run (request : RunRequest) (reading : Storage.Reading) : Except Escape Outcome :=
  match request.program with
  | .inline text => request.runSource (.text text)
  | .file text =>
    if text.contains '\x00' then .error .zeroInPath
    else
      let path := Storage.Path.ofText text
      match reading path with
      | .error fault =>
        .ok (.failure ("cannot read program file: " ++ fault.message path))
      | .ok bytes => request.runSource (.bytes bytes)

end RunRequest

end TapeSwarm.Command
