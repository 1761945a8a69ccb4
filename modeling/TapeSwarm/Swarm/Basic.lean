import TapeSwarm.Entity
import TapeSwarm.Event
import TapeSwarm.Tape.Growth

/-!
Swarms: organisms and food that are updated together, and tapes that mutate.

One tick counts, reads the settings, updates every entity and then mutates the tapes of the
organisms that chance hits. The tick is counted before the settings are read, and the chances are
drawn before they are compared with the mutation rate, so a tick that fails leaves more behind the
later it fails. No draw is taken for an update, so tapes evolve in the same way however they are
run.

Every new entity takes memory for the pattern that it shows first.
-/

namespace TapeSwarm

/-- A population and the source of its random numbers. -/
structure Swarm (σ : Type) where
  source : σ
  /-- The mutation rate that was given, if one was. -/
  givenRate : Option Threshold
  mutationRate : Threshold
  tick : Nat
  organisms : List Entity
  food : List Entity

namespace Swarm

variable {σ : Type} [RandomSource σ]

/-- What a swarm can be founded with; what is missing comes from settings. -/
structure Founding where
  organisms : Option Int := none
  food : Option Int := none
  mutationRate : Option Threshold := none

/-- The mutation rate that settings ask for. -/
def rateOf (settings : Settings) : Threshold :=
  settings.population.mutationRate.getD (.double PopulationSettings.defaultMutationRate)

/-- The part of instructions in the tapes of first organisms that settings ask for. -/
def ratioOf (settings : Settings) : Threshold :=
  settings.instructionRatio.getD (.double PopulationSettings.defaultInstructionRatio)

/-- How many organisms are asked for. -/
def Founding.organismCount (founding : Founding) (settings : Settings) : Int :=
  founding.organisms.getD
    (settings.population.organisms.getD PopulationSettings.defaultOrganisms)

/-- How many food pellets are asked for. -/
def Founding.foodCount (founding : Founding) (settings : Settings) : Int :=
  founding.food.getD (settings.population.food.getD PopulationSettings.defaultFood)

/-- Why a swarm cannot be founded. -/
inductive FoundingFault where
  | ratio (fault : Threshold.Fault)
  | pattern (fault : Snapshot.PatternFault)
  deriving DecidableEq, Repr

/-- The words for a fault. -/
def FoundingFault.message : FoundingFault → String
  | ratio fault => fault.message
  | pattern fault => fault.message

/-- Checks that the entities that are asked for can be made: the part of instructions is needed for
the first organism, and memory for the patterns of all. -/
def Founding.check (founding : Founding) (room : Nat) (settings : Settings) :
    Except FoundingFault Unit := do
  let organisms := (founding.organismCount settings).toNat
  let food := (founding.foodCount settings).toNat
  if 0 < organisms then
    let _ ← (ratioOf settings).check.mapError .ratio
  let size := Entity.patternSizeFor settings
  (Snapshot.checkPatterns room (organisms + food) size).mapError .pattern

/-- The swarm that is founded where all entities can be made: the tapes of the organisms are drawn
first, then those of the food. -/
def populate (founding : Founding) (settings : Settings) (source : σ) : Swarm σ :=
  let (tapes, source) :=
    Draws.repeated (Tape.drawTape Tape.longest (ratioOf settings).limit)
      (founding.organismCount settings).toNat source
  let (foodTapes, source) :=
    Draws.repeated Tape.drawFood (founding.foodCount settings).toNat source
  { source
    givenRate := founding.mutationRate
    mutationRate := founding.mutationRate.getD (rateOf settings)
    tick := 0
    organisms := tapes.map fun tape => Entity.new tape .organism none none settings
    food := foodTapes.map fun tape => Entity.new tape .food none none settings }

/-- Founds a swarm in a number of bytes. -/
def found (room : Nat) (founding : Founding) (settings : Settings) (source : σ) :
    Except FoundingFault (Swarm σ) :=
  (founding.check room settings).map fun _ => populate founding settings source

/-- What is reported when a swarm is founded. -/
def foundingEvent (founding : Founding) (settings : Settings) : Event :=
  .founded (founding.organismCount settings) (founding.foodCount settings)

/-- All entities, organisms first. -/
def entities (swarm : Swarm σ) : List Entity :=
  swarm.organisms ++ swarm.food

/-- An entity at the start of a tick: new settings, one update. -/
def advanceEntity (settings : Settings) (e : Entity) : Entity :=
  (e.configure settings).update.1

/-- Mutates the tape of an organism that was hit. -/
def mutateIf (rate : Float) : Entity × Float → Draws σ Entity
  | (e, chance) =>
    if chance < rate then do
      let tape ← Tape.mutate e.tape
      pure (e.setTape tape)
    else pure e

/-- Draws a chance for every organism, then mutates those whose chance is below the rate. -/
def mutateAll (rate : Float) (organisms : List Entity) : Draws σ (List Entity) := do
  let chances ← Draws.repeated Draws.fraction organisms.length
  Draws.forEach (mutateIf rate) (organisms.zip chances)

/-- The mutations at the end of a tick; without a rate or organisms nothing is drawn. A rate that
nothing can be compared with is found after the chances. -/
def mutate (swarm : Swarm σ) : Swarm σ × Except Threshold.Fault Unit :=
  if swarm.mutationRate.isAtMostZero || swarm.organisms.isEmpty then (swarm, .ok ())
  else
    match swarm.mutationRate.check with
    | .error fault =>
      let (_, source) := Draws.repeated Draws.fraction swarm.organisms.length swarm.source
      ({ swarm with source }, .error fault)
    | .ok rate =>
      let (organisms, source) := mutateAll rate swarm.organisms swarm.source
      ({ swarm with organisms, source }, .ok ())

/-- The updates of a tick under given settings. -/
def updateAll (swarm : Swarm σ) (settings : Settings) : Swarm σ :=
  { swarm with
    mutationRate := if swarm.givenRate.isNone then rateOf settings else swarm.mutationRate
    organisms := swarm.organisms.map (advanceEntity settings)
    food := swarm.food.map (advanceEntity settings) }

/-- One tick under settings that can be read. -/
def stepWith (swarm : Swarm σ) (settings : Settings) : Swarm σ × Except Threshold.Fault Unit :=
  (({ swarm with tick := swarm.tick + 1 } : Swarm σ).updateAll settings).mutate

/-- Why a request to a swarm fails. -/
inductive Fault (ε : Type) where
  /-- The settings cannot be read. -/
  | settings (fault : ε)
  /-- Nothing can be compared with the mutation rate. -/
  | rate (fault : Threshold.Fault)
  /-- There is no room for the pattern of a child. -/
  | pattern (fault : Snapshot.PatternFault)
  deriving DecidableEq, Repr

/-- One tick; `reading` is what reading the settings gives. -/
def step {ε : Type} (swarm : Swarm σ) (reading : Except ε Settings) :
    Swarm σ × Except (Fault ε) Unit :=
  match reading with
  | .error fault => ({ swarm with tick := swarm.tick + 1 }, .error (.settings fault))
  | .ok settings =>
    let (next, outcome) := swarm.stepWith settings
    (next, outcome.mapError .rate)

/-- Adds an organism whose tape is a noisy copy of another tape. The tape is drawn before the
settings of the child are read, and memory needs room for the pattern of the child. -/
def replicate {ε : Type} (swarm : Swarm σ) (parent : Tape) (room : Nat)
    (reading : Except ε Settings) : Swarm σ × Except (Fault ε) Entity :=
  let (tape, source) := Tape.replicate Tape.defaultFidelity parent swarm.source
  match reading with
  | .error fault => ({ swarm with source }, .error (.settings fault))
  | .ok settings =>
    match Entity.newWithin room tape .organism none none settings with
    | .error fault => ({ swarm with source }, .error (.pattern fault))
    | .ok child => ({ swarm with source, organisms := swarm.organisms ++ [child] }, .ok child)

/-- Several ticks under the same settings; one that fails is the last. -/
def stepTimes : Nat → Swarm σ → Settings → Swarm σ × Except Threshold.Fault Unit
  | 0, swarm, _ => (swarm, .ok ())
  | n + 1, swarm, settings =>
    match swarm.stepWith settings with
    | (next, .error fault) => (next, .error fault)
    | (next, .ok _) => stepTimes n next settings

end Swarm

end TapeSwarm
