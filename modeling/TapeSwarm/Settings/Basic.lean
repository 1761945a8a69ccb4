import TapeSwarm.Threshold

/-!
The settings of a swarm.

Every setting may be missing. Where one is, whoever needs it falls back to a value of its own; the
`resolve` functions state these values, one beside the other.
-/

namespace TapeSwarm

/-- The two kinds of entity. -/
inductive Kind where
  | organism
  | food
  deriving DecidableEq, Repr

namespace Kind

/-- The word for a kind. -/
def name : Kind → String
  | organism => "organism"
  | food => "food"

/-- The kind that a word names. -/
def ofName? (name : String) : Option Kind :=
  if name = "organism" then some organism else if name = "food" then some food else none

end Kind

/-- Settings of every machine. -/
structure MachineSettings where
  patternSize : Option Int := none
  maxSteps : Option Int := none
  deriving Repr

/-- Settings of the entities of one kind. -/
structure EntitySettings where
  runEvery : Option Int := none
  maxSteps : Option Int := none
  deriving Repr

/-- Settings of a swarm as a whole. -/
structure PopulationSettings where
  organisms : Option Int := none
  food : Option Int := none
  mutationRate : Option Threshold := none
  deriving Repr

/-- All settings. -/
structure Settings where
  machine : MachineSettings := {}
  organism : EntitySettings := {}
  /-- The part of instructions in the tapes of first organisms. -/
  instructionRatio : Option Threshold := none
  food : EntitySettings := {}
  population : PopulationSettings := {}
  deriving Repr

namespace Settings

/-- The settings of the entities of a kind. -/
def entity (settings : Settings) : Kind → EntitySettings
  | .organism => settings.organism
  | .food => settings.food

end Settings

namespace Kind

/-- Every how many updates a tape is run where nothing says otherwise. -/
def defaultRunEvery : Kind → Int
  | organism => 5
  | food => 10

/-- How many steps a run may take where nothing says otherwise. -/
def defaultMaxSteps : Kind → Int
  | organism => 100
  | food => 50

end Kind

namespace PopulationSettings

def defaultOrganisms : Int := 16

def defaultFood : Int := 8

def defaultMutationRate : Float := 0.01

/-- The part of instructions in first tapes where nothing says otherwise. -/
def defaultInstructionRatio : Float := 0.03125

end PopulationSettings

end TapeSwarm
