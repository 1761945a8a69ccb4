import TapeSwarm.Proofs.Entity.Coherence

/-!
# What an entity goes by

Interval, budget and pattern size of an entity come from three places: what was given when it was
made, the table it was configured with last, and what is usual for its kind. `Obeys` says so of an
entity and a table. Only another table changes what an entity obeys (`Obeys.respond`), and then
nothing is left of the one before: a setting that the new table lacks is the usual one again.
-/

namespace TapeSwarm.Entity

/-- What was given comes first, then the table, then what is usual. The interval is at least one. -/
structure Obeys (runEvery maxSteps : Option Int) (table : Settings) (e : Entity) : Prop where
  givenRunEvery : e.givenRunEvery = runEvery
  givenMaxSteps : e.givenMaxSteps = maxSteps
  interval : e.runEvery =
    max 1 (runEvery.getD ((table.entity e.kind).runEvery.getD e.kind.defaultRunEvery))
  budget : e.maxSteps =
    maxSteps.getD ((table.entity e.kind).maxSteps.getD e.kind.defaultMaxSteps)
  pattern : e.patternSize = table.machine.patternSize.getD Snapshot.defaultPatternSize

/-- The table that is in force after a request. -/
def Request.table (old : Settings) : Request → Settings
  | .configure settings => settings
  | .assign _ | .update | .execute => old

/-- The table that is in force after a history. -/
def latest (table : Settings) (history : List Request) : Settings :=
  history.foldl Request.table table

theorem obeys_new (tape : Tape) (kind : Kind) (runEvery maxSteps : Option Int)
    (settings : Settings) :
    (new tape kind runEvery maxSteps settings).Obeys runEvery maxSteps settings :=
  ⟨rfl, rfl, rfl, rfl, rfl⟩

section

variable {runEvery maxSteps : Option Int} {table : Settings} {e : Entity}

theorem Obeys.one_le_runEvery (obeys : e.Obeys runEvery maxSteps table) : 1 ≤ e.runEvery := by
  rw [obeys.interval]
  exact Int.le_max_left _ _

theorem Obeys.configure (obeys : e.Obeys runEvery maxSteps table) (settings : Settings) :
    (e.configure settings).Obeys runEvery maxSteps settings := by
  obtain ⟨rfl, rfl, _, _, _⟩ := obeys
  exact ⟨rfl, rfl, rfl, rfl, rfl⟩

/-- What an entity carries and shows does not matter to its settings. -/
theorem Obeys.carry (obeys : e.Obeys runEvery maxSteps table)
    (machine : Machine Machine.defaultSize) (updates : Nat) (lastSnapshot : Snapshot)
    (traits : Traits) (genotype : Option (Genotype Float)) (tape : Tape) (complexity : Nat)
    (tapeChanged : Bool) :
    Obeys runEvery maxSteps table { e with
      machine, updates, lastSnapshot, traits, genotype, tape, complexity, tapeChanged } :=
  ⟨obeys.givenRunEvery, obeys.givenMaxSteps, obeys.interval, obeys.budget, obeys.pattern⟩

theorem Obeys.setTape (obeys : e.Obeys runEvery maxSteps table) (tape : Tape) :
    (e.setTape tape).Obeys runEvery maxSteps table :=
  obeys.carry _ _ _ _ _ _ _ _

theorem Obeys.execute (obeys : e.Obeys runEvery maxSteps table) :
    e.execute.Obeys runEvery maxSteps table := by
  cases kind : e.kind with
  | food =>
    rw [execute_of_food kind]
    exact obeys.carry _ _ _ _ _ _ _ _
  | organism =>
    rw [execute_of_organism kind]
    exact obeys.carry _ _ _ _ _ _ _ _

theorem Obeys.update (obeys : e.Obeys runEvery maxSteps table) :
    e.update.1.Obeys runEvery maxSteps table := by
  have counted : e.counted.Obeys runEvery maxSteps table := obeys.carry _ _ _ _ _ _ _ _
  rcases update_cases e with ⟨_, ran⟩ | ⟨_, passed⟩
  · rw [ran]
    exact counted.execute
  · rw [passed]
    exact counted

theorem Obeys.respond (obeys : e.Obeys runEvery maxSteps table) (request : Request) :
    (e.respond request).Obeys runEvery maxSteps (request.table table) := by
  cases request with
  | assign source =>
    show ((e.assign source).1).Obeys runEvery maxSteps table
    unfold assign
    cases source.read with
    | error fault => exact obeys
    | ok tape => exact obeys.setTape tape
  | configure settings => exact obeys.configure settings
  | update => exact obeys.update
  | execute => exact obeys.execute

theorem Obeys.after (obeys : e.Obeys runEvery maxSteps table) (history : List Request) :
    (e.after history).Obeys runEvery maxSteps (latest table history) := by
  induction history generalizing e table with
  | nil => exact obeys
  | cons request rest ih => exact ih (obeys.respond request)

end

end TapeSwarm.Entity
