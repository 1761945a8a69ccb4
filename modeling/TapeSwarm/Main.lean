import TapeSwarm.Command.Invocation
import TapeSwarm.Settings.Stored

/-!
The program: the command line over the real file system, with the bundled settings.
-/

namespace TapeSwarm.Main

/-- The fault that an error of the file system stands for. -/
def readFault (error : IO.Error) : Storage.ReadFault :=
  match error with
  | .noFileOrDirectory .. => .missing
  | .permissionDenied .. => .denied
  | .inappropriateType _ code _ => if code = 21 then .isDirectory else .notDirectory
  | .illegalOperation .. => .isDirectory
  | .invalidArgument .. => .nameTooLong
  | _ => .other (toString error)

/-- Reads a file of the real file system. -/
def readStored (path : Storage.Path) : IO (Except Storage.ReadFault (List UInt8)) := do
  try
    let bytes ← IO.FS.readBinFile path.toText
    pure (.ok bytes.toList)
  catch e =>
    pure (.error (readFault e))

/-- The path that a command line reads, if it reads one. -/
def pathOf (settings : Settings) (arguments : List String) : Option Storage.Path :=
  match Command.Invocation.ofArguments? settings arguments with
  | some (.run { program := .file text, .. }) => some (Storage.Path.ofText text)
  | _ => none

/-- A reminder of the commands and their options. -/
def usage : String :=
  "usage: [--verbose] run PROGRAM [--file] [--steps N] [--input TEXT] [--pattern N]\n"
    ++ "       [--verbose] swarm [--ticks N] [--organisms N] [--food N] [--seed N]"

/-- What the file that a command line reads gives. -/
def contentFor (settings : Settings) (arguments : List String) :
    IO (Except Storage.ReadFault (List UInt8)) :=
  match pathOf settings arguments with
  | some path => readStored path
  | none => pure (.error .missing)

/-- Carries out a command line under settings and answers the exit status. -/
def runUnder (settings : Settings) (arguments : List String) : IO UInt32 := do
  let content ← contentFor settings arguments
  let entropy ← IO.rand 0 2147483647
  match Command.perform Capacity.usualRoom settings (fun _ => content) entropy arguments with
  | .error escape =>
    IO.eprintln escape.message
    pure 1
  | .ok outcome =>
    if outcome = Command.Outcome.badUsage then IO.eprintln usage
    IO.print outcome.stdout
    pure (UInt32.ofNat (outcome.status.getD 0))

/-- Carries out a command line under the bundled settings and answers the exit status. -/
def run (arguments : List String) : IO UInt32 :=
  match Settings.bundled with
  | .ok settings => runUnder settings arguments
  | .error _ => do
    IO.eprintln "the bundled settings cannot be read"
    pure 1

end TapeSwarm.Main

def main (arguments : List String) : IO UInt32 :=
  TapeSwarm.Main.run arguments
