import TapeSwarm.Command.Outcome
import TapeSwarm.Decimal.Fixed
import TapeSwarm.Swarm.Stats

/-!
The command that ticks a swarm and reports on it.

Every hundredth tick gives a line. The command stops early, with a line that says so, at the first
tick after which there are organisms but none of them carries an instruction.
-/

namespace TapeSwarm.Command

/-- What the command was asked to do. Without a seed the given entropy takes its place. -/
structure TickRequest where
  ticks : Amount
  organisms : Option Amount
  food : Option Amount
  seed : Option Amount
  deriving Repr

/-- The number from which a generator is made: the seed that was given, else entropy. A seed without
a number counts as zero. -/
def seedNumber (seed : Option Amount) (entropy : Nat) : Int :=
  match seed with
  | none => entropy
  | some (.number n) => n
  | some .blank => 0

/-- A swarm's generator, of a kind that `seeding` makes from numbers. -/
def generator {σ : Type} (seeding : Nat → σ) (seed : Option Amount) (entropy : Nat) :
    Except Escape σ :=
  (seeded? seeding (seedNumber seed entropy)).mapError .random

namespace TickRequest

variable {σ : Type} [RandomSource σ]

/-- After how many ticks there is a line. -/
def reportEvery : Nat := 100

/-- The line about a swarm. -/
def statsLine (stats : Stats) : String :=
  "t=" ++ toString stats.tick ++ "  ops=" ++ Decimal.fixed 1 stats.meanOperations
    ++ "  complexity=" ++ Decimal.fixed 2 stats.meanComplexity
    ++ "  out=" ++ toString stats.outputBytes

/-- The line of the early stop. -/
def inertLine (tick : Nat) : String :=
  "All organism tapes inert at t=" ++ toString tick

/-- The lines of a number of ticks from a swarm on. A tick that fails ends the command; no line was
printed then, as the first one fails or none does. -/
def report (settings : Settings) : Nat → Swarm σ → Except Threshold.Fault (List String)
  | 0, _ => .ok []
  | n + 1, swarm =>
    match swarm.stepWith settings with
    | (_, .error fault) => .error fault
    | (next, .ok _) =>
      let line := if next.tick % reportEvery = 0 then [statsLine next.stats] else []
      if next.isInert then .ok (line ++ [inertLine next.tick])
      else (report settings n next).map (line ++ ·)

/-- How many ticks are asked for. -/
def tickCount (request : TickRequest) : Except Escape Nat :=
  match request.ticks with
  | .number ticks => .ok ticks.toNat
  | .blank => .error .blankTicks

/-- Carries out the command in a number of bytes. Each number is looked at when it is needed: the
seed, the organisms, the food, the ticks. The organisms are made before the food is looked at. -/
def run (request : TickRequest) (room : Nat) (seeding : Nat → σ) (settings : Settings)
    (entropy : Nat) : Except Escape Outcome := do
  let source ← generator seeding request.seed entropy
  let organisms ← request.organisms.mapM Amount.count
  (Swarm.Founding.check { organisms, food := some 0 } room settings).mapError .founding
  let food ← request.food.mapM Amount.count
  let first ← (Swarm.found room { organisms, food } settings source).mapError .founding
  let ticks ← request.tickCount
  let lines ← (report settings ticks first).mapError .rate
  .ok (.success lines)

end TickRequest

end TapeSwarm.Command
