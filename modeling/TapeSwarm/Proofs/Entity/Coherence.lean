import TapeSwarm.Entity
import TapeSwarm.Proofs.Machine.Budget
import TapeSwarm.Proofs.Machine.History

/-!
# What an entity keeps

An entity keeps a complexity, a genotype, a snapshot and traits beside its tape, so that they need
not be computed for every look at it. Requests come in any order: tapes that are taken or refused,
new settings, updates that run the tape or pass it over, and runs out of turn.

`Coherent` says what each of the kept values has to do with the tape and with the last run. It is
relative to the trial of that run, the tape, budget and pattern size it was made with, because
settings and tape may have changed since. Every request keeps it (`Coherent.respond`). That a run on
the entity's own machine shows what a new machine shows rests on the machine's input queue, which is
empty as long as nobody feeds the machine; this is part of the invariant.

Result: `kept_data_coherent`.
-/

namespace TapeSwarm.Entity

/-! ## Requests and trials -/

/-- What an entity can be told to do. -/
inductive Request where
  | assign (source : Source)
  | configure (settings : Settings)
  | update
  | execute

/-- The entity after a request. A source that is no tape is refused and leaves it as it was. -/
def respond (e : Entity) : Request → Entity
  | .assign source => (e.assign source).1
  | .configure settings => e.configure settings
  | .update => e.update.1
  | .execute => e.execute

/-- The entity after a history of requests. -/
def after (e : Entity) (history : List Request) : Entity :=
  history.foldl respond e

theorem after_append (e : Entity) (earlier later : List Request) :
    e.after (earlier ++ later) = (e.after earlier).after later :=
  List.foldl_append

/-- What a run is made with. -/
structure Trial where
  tape : Tape
  maxSteps : Int
  patternSize : Int
  deriving DecidableEq, Repr

/-- What a machine that was just made shows after a trial. -/
def Trial.outcome (trial : Trial) : Except TapeFault Snapshot :=
  ((Machine.blank Machine.defaultSize Machine.defaultSize_pos).execute (.bytes trial.tape)
    (.ofInt trial.maxSteps) trial.patternSize).2

/-- What a run would be made with now. -/
def trial (e : Entity) : Trial :=
  ⟨e.tape, e.maxSteps, e.patternSize⟩

/-- The trial of a request, if the request runs the tape. -/
def trialOf? (e : Entity) : Request → Option Trial
  | .assign _ | .configure _ => none
  | .update => if e.update.2 then some e.trial else none
  | .execute => some e.trial

/-- The trials of a history, the earliest first. -/
def trials (e : Entity) : List Request → List Trial
  | [] => []
  | request :: rest => (e.trialOf? request).toList ++ (e.respond request).trials rest

/-! ## Runs and updates -/

/-- The entity after one more update, before its tape is run. -/
def counted (e : Entity) : Entity :=
  { e with updates := e.updates + 1 }

/-- The machine after a run of an entity's tape. -/
def machineAfterRun (e : Entity) : Machine Machine.defaultSize :=
  e.machine.runClean e.tape (.ofInt e.maxSteps)

/-- Every `runEvery`th update runs the tape; the others do no more than count. -/
theorem update_cases (e : Entity) :
    ((e.counted.updates : Int) % e.runEvery = 0 ∧ e.update = (e.counted.execute, true)) ∨
      ((e.counted.updates : Int) % e.runEvery ≠ 0 ∧ e.update = (e.counted, false)) := by
  by_cases due : (e.counted.updates : Int) % e.runEvery = 0
  · exact .inl ⟨due, if_pos due⟩
  · exact .inr ⟨due, if_neg due⟩

theorem execute_of_food {e : Entity} (food : e.kind = .food) :
    e.execute = { e with
      machine := e.machineAfterRun
      lastSnapshot := e.machineAfterRun.snapshot e.patternSize
      tapeChanged := false } := by
  unfold execute
  rw [food]
  rfl

theorem execute_of_organism {e : Entity} (organism : e.kind = .organism) :
    e.execute = { e with
      machine := e.machineAfterRun
      lastSnapshot := e.machineAfterRun.snapshot e.patternSize
      tapeChanged := false
      traits := Traits.ofSnapshot (e.machineAfterRun.snapshot e.patternSize)
      genotype :=
        if e.updates % genotypeEvery = 0 then some (Genotype.ofTape e.tape) else e.genotype } := by
  unfold execute
  rw [organism]
  rfl

theorem kind_execute (e : Entity) : e.execute.kind = e.kind := by
  cases kind : e.kind with
  | food => rw [execute_of_food kind, ← kind]
  | organism => rw [execute_of_organism kind, ← kind]

/-- No run changes the tape. -/
theorem tape_execute (e : Entity) : e.execute.tape = e.tape := by
  cases kind : e.kind with
  | food => rw [execute_of_food kind]
  | organism => rw [execute_of_organism kind]

theorem tape_update (e : Entity) : e.update.1.tape = e.tape := by
  rcases update_cases e with ⟨_, ran⟩ | ⟨_, passed⟩
  · rw [ran]
    exact tape_execute e.counted
  · rw [passed]
    rfl

/-- Where nothing is queued, an entity's machine shows what a new machine shows. -/
theorem outcome_trial {e : Entity} (queue : e.machine.input = []) :
    e.trial.outcome = .ok (e.machineAfterRun.snapshot e.patternSize) := by
  have empty : e.machine.input =
      (Machine.blank Machine.defaultSize Machine.defaultSize_pos).input := queue
  have same : e.machineAfterRun = (Machine.blank Machine.defaultSize
      Machine.defaultSize_pos).runClean e.tape (.ofInt e.maxSteps) := by
    unfold machineAfterRun Machine.runClean
    rw [Machine.reset_load_eq empty]
  unfold Trial.outcome
  rw [Machine.execute_of_read rfl, same]
  rfl

/-! ## The invariant -/

/-- The traits that entities of a kind have by their last run, if there was one. -/
def traitsFor (kind : Kind) (last : Option Trial) (snapshot : Snapshot) : Traits :=
  match kind, last with
  | .organism, some _ => Traits.ofSnapshot snapshot
  | .organism, none | .food, _ => Traits.dormant

/-- What an entity keeps is what it would compute. `shown` is the pattern size it was made with and
`last` the trial of its last run. -/
structure Coherent (shown : Int) (last : Option Trial) (e : Entity) : Prop where
  queue : e.machine.input = []
  complexity : e.complexity = e.tape.complexity
  genotype : e.genotype = genotypeFor e.kind e.tape
  unrun : last = none → e.lastSnapshot = Snapshot.empty shown
  snapshot : ∀ trial, last = some trial → trial.outcome = .ok e.lastSnapshot
  current : e.tapeChanged = false → ∃ trial, last = some trial ∧ trial.tape = e.tape
  traits : e.traits = traitsFor e.kind last e.lastSnapshot

theorem coherent_new (tape : Tape) (kind : Kind) (runEvery maxSteps : Option Int)
    (settings : Settings) :
    (new tape kind runEvery maxSteps settings).Coherent (patternSizeFor settings) none where
  queue := rfl
  complexity := rfl
  genotype := rfl
  unrun := fun _ => rfl
  snapshot := fun _ none => nomatch none
  current := fun unchanged => nomatch unchanged
  traits := by cases kind <;> rfl

variable {shown : Int} {last : Option Trial} {e : Entity}

theorem Coherent.setTape (coherent : e.Coherent shown last) (tape : Tape) :
    (e.setTape tape).Coherent shown last where
  queue := coherent.queue
  complexity := rfl
  genotype := by
    -- food had no genotype before and gets none now
    have before := coherent.genotype
    show (genotypeFor e.kind tape).or e.genotype = genotypeFor e.kind tape
    cases kind : e.kind with
    | organism => rfl
    | food =>
      rw [before, kind]
      rfl
  unrun := coherent.unrun
  snapshot := coherent.snapshot
  current := fun unchanged => nomatch unchanged
  traits := coherent.traits

/-- When and how an entity runs next has nothing to do with what it keeps. -/
theorem Coherent.reschedule (coherent : e.Coherent shown last) (updates : Nat)
    (runEvery maxSteps patternSize : Int) :
    Coherent shown last { e with updates, runEvery, maxSteps, patternSize } where
  queue := coherent.queue
  complexity := coherent.complexity
  genotype := coherent.genotype
  unrun := coherent.unrun
  snapshot := coherent.snapshot
  current := coherent.current
  traits := coherent.traits

theorem Coherent.configure (coherent : e.Coherent shown last) (settings : Settings) :
    (e.configure settings).Coherent shown last :=
  coherent.reschedule _ _ _ _

theorem Coherent.counted (coherent : e.Coherent shown last) : e.counted.Coherent shown last :=
  coherent.reschedule _ _ _ _

/-- Taking the genotype again does not change it. -/
theorem Coherent.genotype_execute (coherent : e.Coherent shown last) :
    e.execute.genotype = e.genotype := by
  have kept := coherent.genotype
  cases kind : e.kind with
  | food => rw [execute_of_food kind]
  | organism =>
    rw [execute_of_organism kind]
    rw [kind] at kept
    show (if e.updates % genotypeEvery = 0 then some (Genotype.ofTape e.tape) else e.genotype) = _
    split
    · exact kept.symm
    · rfl

theorem Coherent.genotype_update (coherent : e.Coherent shown last) :
    e.update.1.genotype = e.genotype := by
  rcases update_cases e with ⟨_, ran⟩ | ⟨_, passed⟩
  · rw [ran]
    exact coherent.counted.genotype_execute
  · rw [passed]
    rfl

/-- A run makes its own trial the last one. -/
theorem Coherent.execute (coherent : e.Coherent shown last) :
    e.execute.Coherent shown (some e.trial) := by
  have queue : e.machineAfterRun.input = [] := by
    have less := e.machine.input_runClean_suffix e.tape (.ofInt e.maxSteps)
    rw [coherent.queue] at less
    exact List.suffix_nil.mp less
  have outcome := outcome_trial coherent.queue
  have genotype := coherent.genotype_execute.trans coherent.genotype
  cases kind : e.kind with
  | food =>
    rw [execute_of_food kind] at genotype ⊢
    exact {
      queue, complexity := coherent.complexity, genotype
      unrun := fun none => nomatch none
      snapshot := fun trial same => Option.some.inj same ▸ outcome
      current := fun _ => ⟨e.trial, rfl, rfl⟩
      traits := by
        have before := coherent.traits
        rw [kind] at before
        show e.traits = traitsFor e.kind _ _
        rw [before, kind]
        rfl }
  | organism =>
    rw [execute_of_organism kind] at genotype ⊢
    exact {
      queue, complexity := coherent.complexity, genotype
      unrun := fun none => nomatch none
      snapshot := fun trial same => Option.some.inj same ▸ outcome
      current := fun _ => ⟨e.trial, rfl, rfl⟩
      traits := by
        show _ = traitsFor e.kind _ _
        rw [kind]
        rfl }

/-- A request keeps an entity coherent; the last trial is that of the request, if it has one. -/
theorem Coherent.respond (coherent : e.Coherent shown last) (request : Request) :
    (e.respond request).Coherent shown ((e.trialOf? request).or last) := by
  cases request with
  | assign source =>
    show ((e.assign source).1).Coherent shown last
    unfold assign
    cases source.read with
    | error fault => exact coherent
    | ok tape => exact coherent.setTape tape
  | configure settings => exact coherent.configure settings
  | update =>
    show (e.update.1).Coherent shown ((if e.update.2 then some e.trial else none).or last)
    rcases update_cases e with ⟨_, ran⟩ | ⟨_, passed⟩
    · rw [ran]
      exact coherent.counted.execute
    · rw [passed]
      exact coherent.counted
  | execute => exact coherent.execute

theorem Coherent.after (coherent : e.Coherent shown last) (history : List Request) :
    (e.after history).Coherent shown ((e.trials history).getLast?.or last) := by
  induction history generalizing e last with
  | nil => exact coherent
  | cons request rest ih =>
    have next := ih (coherent.respond request)
    have single : (e.trialOf? request).toList.getLast? = e.trialOf? request := by
      cases e.trialOf? request <;> rfl
    rw [← Option.or_assoc] at next
    rwa [trials, List.getLast?_append, single]

theorem kind_respond (e : Entity) (request : Request) : (e.respond request).kind = e.kind := by
  cases request with
  | assign source =>
    show ((e.assign source).1).kind = e.kind
    unfold assign
    cases source.read <;> rfl
  | configure settings => rfl
  | update =>
    show (e.update.1).kind = e.kind
    rcases update_cases e with ⟨_, update⟩ | ⟨_, update⟩
    · rw [update]
      exact kind_execute e.counted
    · rw [update]
      rfl
  | execute => exact kind_execute e

theorem kind_after (e : Entity) (history : List Request) : (e.after history).kind = e.kind := by
  induction history generalizing e with
  | nil => rfl
  | cons request rest ih => exact (ih (e.respond request)).trans (kind_respond e request)

/-! ## What entities keep -/

/-- Whatever can be made is a new entity. -/
theorem eq_new_of_make {room : Nat} {source : Source} {kindName : String}
    {runEvery maxSteps : Option Int} {settings : Settings}
    (made : make room source kindName runEvery maxSteps settings = .ok e) :
    ∃ tape kind, e = new tape kind runEvery maxSteps settings := by
  unfold make at made
  split at made
  · cases made
  · next kind _ =>
    split at made
    · cases made
    · cases made
    · next tape _ _ => exact ⟨tape, kind, (Except.ok.inj made).symm⟩

/-- What an entity keeps is coherent after every history of requests. The complexity is that of the
tape. An organism's genotype is that of its tape, and no run changes it; food has none. The last
snapshot is that of a new machine under the tape, budget and pattern size that were in force at the
last run, or the empty one of the pattern size the entity was made with. If the tape is not newer
than the last run, then that run was one of this tape. The traits of an organism that has run are
those of the last snapshot; all other entities have the dormant ones. -/
theorem kept_data_coherent {room : Nat} {source : Source} {kindName : String}
    {runEvery maxSteps : Option Int} {settings : Settings} {e : Entity}
    (made : make room source kindName runEvery maxSteps settings = .ok e)
    (history : List Request) :
    let now := e.after history
    let last := (e.trials history).getLast?
    now.complexity = now.tape.complexity ∧
      (e.kind = .organism →
        now.genotype = some (Genotype.ofTape now.tape) ∧
        now.execute.genotype = now.genotype ∧ now.update.1.genotype = now.genotype) ∧
      (e.kind = .food → now.genotype = none) ∧
      (last = none → now.lastSnapshot = Snapshot.empty (patternSizeFor settings)) ∧
      (∀ trial, last = some trial → trial.outcome = .ok now.lastSnapshot) ∧
      (now.tapeChanged = false → ∃ trial, last = some trial ∧ trial.tape = now.tape) ∧
      (e.kind = .organism → last ≠ none → now.traits = Traits.ofSnapshot now.lastSnapshot) ∧
      (e.kind = .food ∨ last = none → now.traits = Traits.dormant) := by
  intro now last
  obtain ⟨tape, kind, rfl⟩ := eq_new_of_make made
  have coherent : now.Coherent (patternSizeFor settings) last := by
    have reached := (coherent_new tape kind runEvery maxSteps settings).after history
    rwa [Option.or_none] at reached
  have genotype := coherent.genotype
  have traits := coherent.traits
  rw [show now.kind = kind from kind_after _ history] at genotype traits
  refine ⟨coherent.complexity, ?_, ?_, coherent.unrun, coherent.snapshot, coherent.current, ?_, ?_⟩
  · rintro rfl
    exact ⟨genotype, coherent.genotype_execute, coherent.genotype_update⟩
  · rintro rfl
    exact genotype
  · rintro rfl ran
    obtain ⟨trial, found⟩ := Option.ne_none_iff_exists'.mp ran
    rw [traits, found]
    rfl
  · rintro (rfl | unrun)
    · exact traits
    · rw [traits, unrun]
      cases kind <;> rfl

/-- An organism gets a tape, passes an update over, refuses what is no tape, gets other settings,
runs and gets one more tape. -/
def changingHistory : List Request :=
  [.assign (.bytes [43, 43]), .update, .assign (.scalar .integer),
    .configure { machine := { patternSize := some 2 }, organism := { maxSteps := some 7 } },
    .update, .assign (.bytes [46])]

theorem kept_data_coherent_changing :
    let e := new [43, 46] .organism (some 2) none {}
    let now := e.after changingHistory
    make 64 (.text ['+', '.']) "organism" (some 2) none {} = .ok e ∧
      e.trials changingHistory = [⟨[43, 43], 7, 2⟩] ∧
      Trial.outcome ⟨[43, 43], 7, 2⟩ = .ok now.lastSnapshot ∧
      now.traits = Traits.ofSnapshot now.lastSnapshot ∧ now.complexity = 1 := by
  intro e now
  have made : make 64 (.text ['+', '.']) "organism" (some 2) none {} = .ok e := rfl
  have trials : e.trials changingHistory = [⟨[43, 43], 7, 2⟩] := by decide
  obtain ⟨complexity, _, _, _, outcome, _, traits, _⟩ := kept_data_coherent made changingHistory
  rw [trials] at outcome traits
  exact ⟨made, trials, outcome _ rfl, traits rfl (Option.some_ne_none _), complexity⟩

end TapeSwarm.Entity
