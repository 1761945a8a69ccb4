import TapeSwarm.Command.Outcome
import TapeSwarm.Decimal.Fixed
import TapeSwarm.Machine.Snapshot
import TapeSwarm.Random.Permuted
import TapeSwarm.Tape.Growth

/-!
A benchmark: one clean run per entity and frame, and the operations that took place in the time that
passed.
-/

namespace TapeSwarm.Report

open Command

/-- The seed of the tapes that a benchmark runs. -/
def benchmarkSeed : Nat := 0

/-- The tapes that a benchmark runs. -/
def benchmarkTapes (entities : Int) : List Tape :=
  (Draws.repeated (Tape.drawTape Tape.longest Tape.defaultRatio) entities.toNat
    (Permuted.ofSeed benchmarkSeed)).1

/-- The operations of one frame. -/
def frameOperations (tapes : List Tape) (budget : Budget) : Nat :=
  let machine := Machine.blank Machine.defaultSize Machine.defaultSize_pos
  tapes.foldr (fun tape total => (machine.runClean tape budget).operations + total) 0

/-- The operations of all frames, each of which runs all tapes anew. -/
def benchmarkOperations (entities frames maxSteps : Int) : Nat :=
  let tapes := benchmarkTapes entities
  (List.replicate frames.toNat ()).foldl
    (fun total _ => total + frameOperations tapes (Budget.ofInt maxSteps)) 0

/-- The line of a benchmark that took `elapsed` seconds. -/
def benchmark (entities frames maxSteps : Int) (elapsed : Float) : Except Escape Outcome :=
  if elapsed == 0 then .error .noTime
  else
    let operations := benchmarkOperations entities frames maxSteps
    .ok ⟨none,
      [ "Elapsed: " ++ Decimal.fixed 4 elapsed ++ "s  (" ++ toString operations ++ " ops, "
          ++ Decimal.fixed 0 (Float.ofNat operations / elapsed) ++ " ops/s)" ]⟩

end TapeSwarm.Report
