import TapeSwarm.Command.Invocation
import TapeSwarm.Decimal.Shortest
import TapeSwarm.Text.Hexadecimal

/-!
A census: a swarm is ticked, then every organism is listed with its tape, and the swarm in numbers.
-/

namespace TapeSwarm.Report

open Command

/-- What a census was asked to do. -/
structure CensusRequest where
  ticks : Amount
  organisms : Amount
  seed : Option Amount
  deriving Repr

/-- The line of an organism, with its number. -/
def organismLine (number : Nat) (e : Entity) : String :=
  let digits := toString number
  "#" ++ String.ofList (List.replicate (2 - digits.length) '0') ++ digits
    ++ " complexity=" ++ Text.padFront 2 (toString e.complexity)
    ++ " ops=" ++ Text.padFront 3 (toString e.lastSnapshot.operations)
    ++ " pattern=" ++ listed e.lastSnapshot.pattern
    ++ " tape=" ++ Text.hexadecimalBytes e.tape

/-- The line of all numbers, by name. -/
def numbersLine (stats : Stats) : String :=
  let entries : List (String × String) :=
    [ ("tick", toString stats.tick),
      ("organisms", toString stats.organisms),
      ("food", toString stats.food),
      ("mean_operations", Decimal.shortest stats.meanOperations),
      ("mean_complexity", Decimal.shortest stats.meanComplexity),
      ("output_bytes", toString stats.outputBytes) ]
  "\x7b" ++ ", ".intercalate (entries.map fun (name, value) => "'" ++ name ++ "': " ++ value)
    ++ "\x7d"

namespace CensusRequest

/-- The ticks of a census where arguments do not say otherwise. -/
def defaultTicks : Int := 200

/-- The organisms of a census where arguments do not say otherwise. -/
def defaultOrganisms : Int := 8

/-- Understands the arguments of a census. -/
def ofArguments? (arguments : List String) : Option CensusRequest := do
  let options := [ticksOption, organismsOption, seedOption]
  let given ← collect false {} (classifyAll options (arguments.map String.toList))
  let ticks ← given.amount? ticksOption
  let organisms ← given.amount? organismsOption
  let seed ← given.amount? seedOption
  some
    { ticks := ticks.getD (.number defaultTicks)
      organisms := organisms.getD (.number defaultOrganisms), seed }

/-- Takes the census in a number of bytes. -/
def run (request : CensusRequest) (room : Nat) (settings : Settings) (entropy : Nat) :
    Except Escape Outcome := do
  let source ← generator Permuted.ofSeed request.seed entropy
  let organisms ← request.organisms.count
  let first ← (Swarm.found room { organisms := some organisms } settings source).mapError .founding
  let ticks ← request.ticks.count
  let (swarm, ticked) := Swarm.stepTimes ticks.toNat first settings
  ticked.mapError .rate
  let lines := swarm.organisms.zipIdx.map fun (e, number) => organismLine number e
  .ok ⟨none, "Initializing swarm..." :: lines ++ [numbersLine swarm.stats]⟩

end CensusRequest

/-- What comes of the arguments of a census. -/
def census (room : Nat) (settings : Settings) (entropy : Nat) (arguments : List String) :
    Except Escape Outcome :=
  match CensusRequest.ofArguments? arguments with
  | none => .ok .badUsage
  | some request => request.run room settings entropy

end TapeSwarm.Report
