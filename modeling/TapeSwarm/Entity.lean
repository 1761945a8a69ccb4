import TapeSwarm.Machine.Snapshot
import TapeSwarm.Phenotype.Genotype
import TapeSwarm.Phenotype.Traits
import TapeSwarm.Settings.Basic
import TapeSwarm.Text.Quoted

/-!
Entities: a tape, a machine of its own to run it, and what the last run showed.

An entity runs its tape on every `runEvery`th update only; in between the last snapshot stands.
Organisms have a genotype and traits, food has neither. What was given when an entity was made takes
precedence over settings, and settings over the values of its kind.
-/

namespace TapeSwarm

/-- An organism or a food pellet. -/
structure Entity where
  kind : Kind
  /-- The interval between runs that was given, if one was. -/
  givenRunEvery : Option Int
  /-- The step budget that was given, if one was. -/
  givenMaxSteps : Option Int
  runEvery : Int
  maxSteps : Int
  patternSize : Int
  machine : Machine Machine.defaultSize
  updates : Nat
  lastSnapshot : Snapshot
  traits : Traits
  genotype : Option (Genotype Float)
  tape : Tape
  complexity : Nat
  /-- Whether the tape is newer than the last run. -/
  tapeChanged : Bool

/-- Why an entity cannot be made. -/
inductive EntityFault where
  | unknownKind (name : String)
  | pattern (fault : Snapshot.PatternFault)
  | tape (fault : TapeFault)
  deriving Repr

namespace EntityFault

/-- The words for a fault. -/
def message : EntityFault → String
  | unknownKind name => "unknown entity kind " ++ Text.quoted name
  | pattern fault => fault.message
  | tape fault => fault.message

end EntityFault

namespace Entity

/-- After how many updates an organism's genotype is taken again. -/
def genotypeEvery : Nat := 30

/-- The interval between runs: what was given, else what settings say, else the kind's own; never
below one. -/
def intervalFor (kind : Kind) (given : Option Int) (settings : Settings) : Int :=
  max 1 (given.getD ((settings.entity kind).runEvery.getD kind.defaultRunEvery))

/-- The step budget: what was given, else what settings say, else the kind's own. -/
def stepsFor (kind : Kind) (given : Option Int) (settings : Settings) : Int :=
  given.getD ((settings.entity kind).maxSteps.getD kind.defaultMaxSteps)

/-- The number of cells that a snapshot shows. -/
def patternSizeFor (settings : Settings) : Int :=
  settings.machine.patternSize.getD Snapshot.defaultPatternSize

/-- The genotype that entities of a kind have of a tape. -/
def genotypeFor (kind : Kind) (tape : Tape) : Option (Genotype Float) :=
  match kind with
  | .organism => some (Genotype.ofTape tape)
  | .food => none

/-- Takes interval, budget and pattern size from settings, unless they were given. -/
def configure (e : Entity) (settings : Settings) : Entity :=
  { e with
    runEvery := intervalFor e.kind e.givenRunEvery settings
    maxSteps := stepsFor e.kind e.givenMaxSteps settings
    patternSize := patternSizeFor settings }

/-- Puts a tape into an entity; organisms take its genotype at once. -/
def setTape (e : Entity) (tape : Tape) : Entity :=
  { e with
    tape
    complexity := tape.complexity
    tapeChanged := true
    genotype := (genotypeFor e.kind tape).or e.genotype }

/-- Puts whatever a source holds into an entity; what is no tape leaves it as it was. -/
def assign (e : Entity) (source : Source) : Entity × Except TapeFault Unit :=
  match source.read with
  | .error fault => (e, .error fault)
  | .ok tape => (e.setTape tape, .ok ())

/-- A new entity with a tape. -/
def new (tape : Tape) (kind : Kind) (givenRunEvery givenMaxSteps : Option Int)
    (settings : Settings) : Entity where
  kind
  givenRunEvery
  givenMaxSteps
  runEvery := intervalFor kind givenRunEvery settings
  maxSteps := stepsFor kind givenMaxSteps settings
  patternSize := patternSizeFor settings
  machine := Machine.blank Machine.defaultSize Machine.defaultSize_pos
  updates := 0
  lastSnapshot := Snapshot.empty (patternSizeFor settings)
  traits := Traits.dormant
  genotype := genotypeFor kind tape
  tape
  complexity := tape.complexity
  tapeChanged := true

/-- Makes a new entity with a tape, if a number of bytes has room for the pattern that it shows. -/
def newWithin (room : Nat) (tape : Tape) (kind : Kind) (givenRunEvery givenMaxSteps : Option Int)
    (settings : Settings) : Except Snapshot.PatternFault Entity :=
  (Snapshot.checkPatterns room 1 (patternSizeFor settings)).map fun _ =>
    new tape kind givenRunEvery givenMaxSteps settings

/-- Makes an entity of a named kind from a source; the kind is looked at first, then the room for
the pattern that it shows, then the source. -/
def make (room : Nat) (source : Source) (kindName : String) (runEvery maxSteps : Option Int)
    (settings : Settings) : Except EntityFault Entity :=
  match Kind.ofName? kindName with
  | none => .error (.unknownKind kindName)
  | some kind =>
    match Snapshot.checkPatterns room 1 (patternSizeFor settings), source.read with
    | .error fault, _ => .error (.pattern fault)
    | .ok _, .error fault => .error (.tape fault)
    | .ok _, .ok tape => .ok (new tape kind runEvery maxSteps settings)

/-- Runs the tape on a clean machine and takes in what that showed. -/
def execute (e : Entity) : Entity :=
  let machine := e.machine.runClean e.tape (Budget.ofInt e.maxSteps)
  let snapshot := machine.snapshot e.patternSize
  let ran := { e with machine, lastSnapshot := snapshot, tapeChanged := false }
  match e.kind with
  | .food => ran
  | .organism =>
    { ran with
      traits := Traits.ofSnapshot snapshot
      genotype :=
        if e.updates % genotypeEvery = 0 then some (Genotype.ofTape e.tape) else e.genotype }

/-- One update; answers whether the tape was run. -/
def update (e : Entity) : Entity × Bool :=
  let counted := { e with updates := e.updates + 1 }
  if (counted.updates : Int) % e.runEvery = 0 then (counted.execute, true) else (counted, false)

/-- Several updates, one after the other. -/
def updateTimes : Nat → Entity → Entity × List Bool
  | 0, e => (e, [])
  | n + 1, e =>
    let (e, ran) := e.update
    let (e, later) := updateTimes n e
    (e, ran :: later)

/-- Queues input bytes for the entity's machine. -/
def feed (e : Entity) (source : Source) : Entity × Except TapeFault Unit :=
  match source.read with
  | .error fault => (e, .error fault)
  | .ok values => ({ e with machine := e.machine.feed values }, .ok ())

/-- Forgets the genotype until it is taken again. -/
def forgetGenotype (e : Entity) : Entity :=
  { e with genotype := none }

/-- An entity in a few words. -/
def summary (e : Entity) : String :=
  "Entity(" ++ e.kind.name ++ ", complexity=" ++ toString e.complexity ++ ", ops="
    ++ toString e.lastSnapshot.operations ++ ")"

end Entity

end TapeSwarm
