import TapeSwarm.Proofs.Entity.Settings
import TapeSwarm.Proofs.Swarm.Heredity
import TapeSwarm.Proofs.Swarm.Places

/-!
# What a swarm goes by

A table of settings reaches an entity when the entity is made, when its swarm takes a step, and when
it is configured by itself. Between these there may be anything: other requests to the swarm, and
requests to single entities. For each place there is one latest table, the one that was read last
for who is there (`latest`), and who is there obeys it (`latest_obeyed`). The mutation rate is
another matter: only a step sets it, and only where none was given (`mutationRate_afterActions`).

Result: `latest_tables_in_force`.
-/

namespace TapeSwarm.Swarm

open Entity

variable {σ ε : Type} [RandomSource σ]

/-! ## Requests to a swarm and to its entities -/

/-- What can be asked of a swarm: a request of its own, or one to the entity at a place. -/
inductive Action (ε : Type) where
  | swarm (request : Request ε)
  | entity (place : Place) (request : Entity.Request)

/-- The swarm after a request to one entity. Where nobody is, nothing happens. -/
def tell (swarm : Swarm σ) (place : Place) (request : Entity.Request) : Swarm σ :=
  match place with
  | .organism i => { swarm with organisms := swarm.organisms.modify i (·.respond request) }
  | .food i => { swarm with food := swarm.food.modify i (·.respond request) }

def act (swarm : Swarm σ) : Action ε → Swarm σ
  | .swarm request => swarm.respond request
  | .entity place request => swarm.tell place request

def afterActions (swarm : Swarm σ) (history : List (Action ε)) : Swarm σ :=
  history.foldl act swarm

theorem getElem?_modify_eq_ite {α : Type} (list : List α) (i j : Nat) (f : α → α) :
    (list.modify i f)[j]? = if i = j then list[j]?.map f else list[j]? := by
  rw [List.getElem?_modify]
  split
  · rfl
  · exact Option.map_id_apply

omit [RandomSource σ] in
theorem member?_tell (swarm : Swarm σ) (place : Place) (request : Entity.Request) (other : Place) :
    (swarm.tell place request).member? other =
      if place = other then (swarm.member? other).map (·.respond request)
      else swarm.member? other := by
  rcases place with i | i
  · rcases other with j | j
    · simp only [Place.organism.injEq]
      exact getElem?_modify_eq_ite swarm.organisms i j _
    · rfl
  · rcases other with j | j
    · rfl
    · simp only [Place.food.injEq]
      exact getElem?_modify_eq_ite swarm.food i j _

/-! ## The latest table -/

/-- The table that is in force at a place after an action, if `old` was before. A place that is
still free takes whatever table is read, and so in the end that of the child that comes to it. -/
def tableAt (swarm : Swarm σ) (place : Place) (old : Settings) : Action ε → Settings
  | .swarm (.step (.ok settings)) => settings
  | .swarm (.replicate _ _ (.ok settings)) =>
    if (swarm.member? place).isNone then settings else old
  | .swarm (.step (.error _)) | .swarm (.replicate _ _ (.error _)) => old
  | .entity told request => if told = place then request.table old else old

/-- The table that was read last for who is at a place. -/
def latest (swarm : Swarm σ) (place : Place) (table : Settings) : List (Action ε) → Settings
  | [] => table
  | action :: rest => (swarm.act action).latest place (swarm.tableAt place table action) rest

/-- Whoever is at a place obeys a table. -/
def ObeyedAt (swarm : Swarm σ) (place : Place) (table : Settings) : Prop :=
  ∀ e, swarm.member? place = some e → e.Obeys none none table

theorem obeys_of_drifts {settings : Settings} {table : Settings} {e later : Entity}
    (obeys : e.Obeys none none table) (drifts : Drifts (ε := ε) (.ok settings) e later) :
    later.Obeys none none settings := by
  have advanced : (advanceEntity settings e).Obeys none none settings :=
    (obeys.configure settings).update
  rcases drifts with rfl | ⟨tape, _, rfl⟩
  · exact advanced
  · exact advanced.setTape tape

theorem ObeyedAt.respond {swarm : Swarm σ} {place : Place} {table : Settings}
    (obeyed : swarm.ObeyedAt place table) (request : Request ε) :
    (swarm.respond request).ObeyedAt place (swarm.tableAt place table (.swarm request)) := by
  intro later there
  cases before : swarm.member? place with
  | none =>
    obtain ⟨parent, room, settings, tape, rfl, rfl⟩ := new_of_free before there
    unfold tableAt
    rw [before]
    exact obeys_new tape .organism none none settings
  | some e =>
    have obeys := obeyed e before
    obtain ⟨same, found, meets⟩ := member?_respond before request
    obtain rfl := Option.some.inj (found.symm.trans there)
    cases request with
    | step reading =>
      cases reading with
      | error fault =>
        obtain rfl : same = e := meets
        exact obeys
      | ok settings => exact obeys_of_drifts (ε := ε) obeys meets
    | replicate parent room reading =>
      obtain rfl : same = e := meets
      cases reading with
      | error fault => exact obeys
      | ok settings =>
        -- the table of a child is nobody else's
        unfold tableAt
        rw [before]
        exact obeys

omit [RandomSource σ] in
theorem ObeyedAt.tell {swarm : Swarm σ} {place : Place} {table : Settings}
    (obeyed : swarm.ObeyedAt place table) (told : Place) (request : Entity.Request) :
    (swarm.tell told request).ObeyedAt place
      (swarm.tableAt place table (.entity (ε := ε) told request)) := by
  intro later there
  rw [member?_tell] at there
  unfold tableAt
  dsimp only
  split at there
  · next same =>
    obtain ⟨e, before, rfl⟩ := Option.map_eq_some_iff.mp there
    rw [if_pos same]
    exact (obeyed e before).respond request
  · next other =>
    rw [if_neg other]
    exact obeyed later there

theorem ObeyedAt.act {swarm : Swarm σ} {place : Place} {table : Settings}
    (obeyed : swarm.ObeyedAt place table) (action : Action ε) :
    (swarm.act action).ObeyedAt place (swarm.tableAt place table action) := by
  cases action with
  | swarm request => exact obeyed.respond request
  | entity told request => exact obeyed.tell told request

theorem latest_obeyed {swarm : Swarm σ} {place : Place} {table : Settings}
    (obeyed : swarm.ObeyedAt place table) (history : List (Action ε)) :
    (swarm.afterActions history).ObeyedAt place (swarm.latest place table history) := by
  induction history generalizing swarm table with
  | nil => exact obeyed
  | cons action rest ih => exact ih (obeyed.act action)

/-! ## The mutation rate -/

/-- The table of the last step, if `old` was that of the last one before. -/
def Action.pushed (old : Settings) : Action ε → Settings
  | .swarm (.step (.ok settings)) => settings
  | .swarm (.step (.error _)) | .swarm (.replicate ..) | .entity .. => old

theorem rateUnder_act (swarm : Swarm σ) (action : Action ε) :
    (swarm.act action).rateUnder = swarm.rateUnder := by
  cases action with
  | swarm request => exact rateUnder_respond swarm request
  | entity place request => cases place <;> rfl

theorem mutationRate_act {swarm : Swarm σ} {old : Settings}
    (rate : swarm.mutationRate = swarm.rateUnder old) (action : Action ε) :
    (swarm.act action).mutationRate = swarm.rateUnder (action.pushed old) := by
  rcases action with (reading | ⟨parent, room, reading⟩) | ⟨place, request⟩
  · cases reading with
    | error fault => exact rate
    | ok settings => exact mutationRate_stepWith swarm settings
  · show (swarm.respond (.replicate parent room reading)).mutationRate = _
    rcases replicate_cases swarm parent room reading with
      ⟨_, _, left⟩ | ⟨_, _, _, _, _, _, _, left⟩
    · rw [left]
      exact rate
    · rw [left]
      exact rate
  · cases place <;> exact rate

theorem mutationRate_afterActions {swarm : Swarm σ} {old : Settings}
    (rate : swarm.mutationRate = swarm.rateUnder old) (history : List (Action ε)) :
    (swarm.afterActions history).rateUnder = swarm.rateUnder ∧
      (swarm.afterActions history).mutationRate =
        swarm.rateUnder (history.foldl Action.pushed old) := by
  induction history generalizing swarm old with
  | nil => exact ⟨rfl, rate⟩
  | cons action rest ih =>
    have same := rateUnder_act swarm action
    have next := mutationRate_act rate action
    rw [← same] at next ⊢
    exact ih next

/-! ## Tables in force -/

/-- After any history of a founded swarm and its entities, in which every request may find another
table, the mutation rate is the one that was given, else that of the latest table a step has read.
Who is at a place has the interval, the budget and the pattern size of the latest table that was
read for it, with what is usual for its kind wherever that table is silent; right after a step this
is the table of the step, for everybody. Entities outside a swarm obey what was given and then the
table they were configured with last. Every interval is at least one, also that of the update in a
step, so no update divides by zero. -/
theorem latest_tables_in_force {room : Nat} {founding : Founding} {base : Settings} {source : σ}
    {first : Swarm σ} (founded : found room founding base source = .ok first)
    (history : List (Action ε)) :
    let now := first.afterActions history
    now.mutationRate = founding.mutationRate.getD (rateOf (history.foldl Action.pushed base)) ∧
      (∀ place e, now.member? place = some e →
        e.Obeys none none (first.latest place base history) ∧ 1 ≤ e.runEvery ∧
          ∀ settings, 1 ≤ (e.configure settings).runEvery) ∧
      (∀ settings : Settings,
        let pushed := (now.step (Except.ok (ε := ε) settings)).1
        pushed.mutationRate = founding.mutationRate.getD (rateOf settings) ∧
          ∀ e ∈ pushed.entities, e.Obeys none none settings) ∧
      ∀ (room : Nat) (tape : Source) (kindName : String) (runEvery maxSteps : Option Int)
        (table : Settings) (e : Entity), make room tape kindName runEvery maxSteps table = .ok e →
        ∀ requests, (e.after requests).Obeys runEvery maxSteps (Entity.latest table requests) ∧
          1 ≤ (e.after requests).runEvery := by
  intro now
  obtain rfl := eq_populate_of_found founded
  have start (place : Place) : (populate founding base source).ObeyedAt place base := by
    intro e there
    obtain ⟨tape, kind, rfl⟩ := new_of_founder there
    exact obeys_new tape kind none none base
  have inForce (place : Place) :
      now.ObeyedAt place ((populate founding base source).latest place base history) :=
    latest_obeyed (start place) history
  have given := rateUnder_populate founding base source
  have first : (populate founding base source).mutationRate =
      (populate founding base source).rateUnder base := (congrFun given base).symm
  obtain ⟨same, rate⟩ := mutationRate_afterActions first history
  rw [given] at same rate
  refine ⟨rate, fun place e there => ?_, fun settings => ⟨?_, fun e member => ?_⟩,
    fun room tape kindName runEvery maxSteps table e made requests => ?_⟩
  · have obeys := inForce place e there
    exact ⟨obeys, obeys.one_le_runEvery, fun settings => (obeys.configure settings).one_le_runEvery⟩
  · exact (mutationRate_stepWith now settings).trans (congrFun same settings)
  · obtain ⟨place, there⟩ := mem_entities_iff.mp member
    exact (inForce place).act (.swarm (.step (.ok (ε := ε) settings))) e there
  · obtain ⟨tape, kind, rfl⟩ := eq_new_of_make made
    have obeys := (obeys_new tape kind runEvery maxSteps table).after requests
    exact ⟨obeys, obeys.one_le_runEvery⟩

/-- A table with an interval of zero and a budget below zero. -/
def harsh : Settings where
  machine := { patternSize := some 2 }
  organism := { runEvery := some 0, maxSteps := some (-3) }
  population := { mutationRate := some (.double 1) }

/-- A table that says no more than that nothing mutates. -/
def still : Settings where
  population := { mutationRate := some (.double 0) }

/-- A child is born under a harsh table, and no trace of that table is left after a step that finds
an empty one. An entity of its own keeps the budget it was given. -/
theorem latest_tables_in_force_withdrawn :
    let founding : Founding := { organisms := some 1, food := some 1 }
    let first := populate founding {} (Scripted.ofLists [] [])
    let history : List (Action Unit) :=
      [.swarm (.step (.ok still)), .entity (.organism 0) .update,
        .swarm (.replicate 0 16 (.ok harsh))]
    let now := first.afterActions history
    let single := new [43] .food none (some 7) {}
    found 128 founding {} (Scripted.ofLists [] []) = .ok first ∧
      (∃ e, now.member? (.organism 1) = some e ∧ e.runEvery = 1 ∧ e.maxSteps = -3 ∧
        e.patternSize = 2) ∧
      (∀ e ∈ (now.step (Except.ok (ε := Unit) {})).1.entities, e.kind = .organism →
        e.runEvery = 5 ∧ e.maxSteps = 100 ∧ e.patternSize = 8) ∧
      make 64 (.bytes [43]) "food" none (some 7) {} = .ok single ∧
      (single.after [.configure harsh, .update]).maxSteps = 7 ∧
      (single.after [.configure harsh, .update]).runEvery = 10 := by
  intro founding first history now single
  have founded : found 128 founding {} (Scripted.ofLists [] []) = .ok first := rfl
  obtain ⟨_, inForce, pushed, outside⟩ := latest_tables_in_force founded history
  have child : (now.member? (.organism 1)).map Entity.kind = some .organism := by decide +kernel
  obtain ⟨e, there, organism⟩ := Option.map_eq_some_iff.mp child
  have free : (((first.act (.swarm (.step (.ok (ε := Unit) still)))).act
      (.entity (ε := Unit) (.organism 0) .update)).member? (.organism 1)).isNone = true := by
    decide +kernel
  have table : first.latest (.organism 1) {} history = harsh := by
    simp only [history, latest, tableAt]
    rw [if_pos free]
  have made : make 64 (.bytes [43]) "food" none (some 7) {} = .ok single := rfl
  refine ⟨founded, ⟨e, there, ?_⟩, fun e member organism => ?_, made, ?_⟩
  · have obeys : e.Obeys none none (first.latest (.organism 1) {} history) :=
      (inForce (.organism 1) e there).1
    rw [table] at obeys
    obtain ⟨_, _, interval, budget, pattern⟩ := obeys
    rw [organism] at interval budget
    exact ⟨interval, budget, pattern⟩
  · obtain ⟨_, _, interval, budget, pattern⟩ := (pushed {}).2 e member
    rw [organism] at interval budget
    exact ⟨interval, budget, pattern⟩
  · obtain ⟨_, _, interval, budget, _⟩ :=
      (outside _ _ _ _ _ _ _ made [.configure harsh, .update]).1
    have food : (single.after [.configure harsh, .update]).kind = .food := kind_after single _
    rw [food] at interval budget
    exact ⟨budget, interval⟩

end TapeSwarm.Swarm
