import TapeSwarm.Proofs.Swarm.Population
import TapeSwarm.Random.Scripted

/-!
# How tapes evolve

Tapes are drawn, mutated and copied; that they are run leaves no trace in them. `Heredity` is what
is left of a swarm when all that belongs to running is dropped: the tapes, the tick and the source.
Each request acts on this part alone (`heredity_respond`), and all that its settings say to it is a
`Turn`: the mutation rate of a step, and whether a child has room for its first snapshot. So two
swarms whose calls come to the same turns have the same tapes (`heredity_after`), however their
settings let the tapes run.

The room for a child does depend on settings. A pattern of a size that memory has no room for stops
a replication after its draws, and the swarm goes without the child.

Results:
1. `tapes_eq_of_alike`: the tapes, the tick and the source of two swarms under different settings.
2. `tapes_ne_of_no_room`: settings that differ in the pattern size, and tapes that differ.
-/

namespace TapeSwarm

/-- A draw for every member of a list, seen through maps of what goes in and what comes out. -/
theorem Draws.forEach_map {σ α β γ δ : Type} {draw : α → Draws σ β} {image : γ → Draws σ δ}
    {f : α → γ} {g : β → δ} (each : ∀ a s, image (f a) s = (g (draw a s).1, (draw a s).2))
    (list : List α) (s : σ) :
    forEach image (list.map f) s = ((forEach draw list s).1.map g, (forEach draw list s).2) := by
  induction list generalizing s with
  | nil => rfl
  | cons a rest ih =>
    rw [List.map_cons, forEach_cons, forEach_cons, each, ih]
    rfl

namespace Swarm

open Entity

variable {σ ε : Type} [RandomSource σ]

/-! ## What is inherited -/

/-- What evolves in a swarm. -/
structure Heredity (σ : Type) where
  source : σ
  tick : Nat
  organisms : List Tape
  food : List Tape

/-- What a request comes to for the tapes. -/
inductive Turn where
  /-- A tick without settings. -/
  | idle
  | tick (rate : Threshold)
  /-- A copy of the tape at a place, which is lost if it has no room. -/
  | copy (parent : Nat) (room : Bool)

namespace Heredity

def mutateIf (rate : Float) : Tape × Float → Draws σ Tape
  | (tape, chance) => if chance < rate then Tape.mutate tape else pure tape

def mutateAll (rate : Float) (tapes : List Tape) : Draws σ (List Tape) := do
  let chances ← Draws.repeated Draws.fraction tapes.length
  Draws.forEach (mutateIf rate) (tapes.zip chances)

def mutate (rate : Threshold) (h : Heredity σ) : Heredity σ :=
  if rate.isAtMostZero || h.organisms.isEmpty then h
  else
    match rate.check with
    | .error _ => { h with source := (Draws.repeated Draws.fraction h.organisms.length h.source).2 }
    | .ok rate =>
      let (organisms, source) := mutateAll rate h.organisms h.source
      { h with organisms, source }

/-- Copies a tape, which becomes that of a new organism if there is room. -/
def copy (tape : Tape) (room : Bool) (h : Heredity σ) : Heredity σ :=
  let (child, source) := Tape.replicate Tape.defaultFidelity tape h.source
  { h with source, organisms := if room then h.organisms ++ [child] else h.organisms }

def turn (h : Heredity σ) : Turn → Heredity σ
  | .idle => { h with tick := h.tick + 1 }
  | .tick rate => ({ h with tick := h.tick + 1 } : Heredity σ).mutate rate
  | .copy parent room =>
    match (h.organisms ++ h.food)[parent]? with
    | none => h
    | some tape => h.copy tape room

def after (h : Heredity σ) (turns : List Turn) : Heredity σ :=
  turns.foldl turn h

end Heredity

def heredity (swarm : Swarm σ) : Heredity σ where
  source := swarm.source
  tick := swarm.tick
  organisms := swarm.organisms.map Entity.tape
  food := swarm.food.map Entity.tape

/-- The mutation rate that is in force in a step under given settings. -/
def rateUnder (swarm : Swarm σ) (settings : Settings) : Threshold :=
  if swarm.givenRate.isNone then rateOf settings else swarm.mutationRate

/-- The turn of a request, given the mutation rate that settings come to. -/
def Request.turn (rate : Settings → Threshold) : Request ε → Turn
  | .step (.error _) => .idle
  | .step (.ok settings) => .tick (rate settings)
  | .replicate parent room reading => .copy parent (reading.toOption.any (hasRoom room))

/-! ## The mutation rate -/

theorem mutationRate_stepWith (swarm : Swarm σ) (settings : Settings) :
    (swarm.stepWith settings).1.mutationRate = swarm.rateUnder settings := by
  obtain ⟨_, _, stepped, _⟩ := stepWith_cases swarm settings
  rw [stepped]
  rfl

/-- No request changes what settings come to. -/
theorem rateUnder_respond (swarm : Swarm σ) (request : Request ε) :
    (swarm.respond request).rateUnder = swarm.rateUnder := by
  cases request with
  | step reading =>
    cases reading with
    | error fault => rfl
    | ok settings =>
      obtain ⟨_, _, stepped, _⟩ := stepWith_cases swarm settings
      funext later
      show (swarm.stepWith settings).1.rateUnder later = _
      rw [stepped]
      unfold rateUnder
      -- a step takes another rate only where none was given, and there the rate is not looked at
      cases swarm.givenRate <;> rfl
  | replicate parent room reading =>
    rcases replicate_cases swarm parent room reading with
      ⟨_, _, left⟩ | ⟨_, _, _, _, _, _, _, left⟩
    · rw [left]
      rfl
    · rw [left]
      rfl

/-! ## One request -/

theorem mutateIf_tape (rate : Float) (hit : Entity × Float) (s : σ) :
    Heredity.mutateIf rate (hit.map Entity.tape id) s =
      ((mutateIf rate hit s).1.tape, (mutateIf rate hit s).2) := by
  obtain ⟨e, chance⟩ := hit
  unfold Heredity.mutateIf mutateIf
  dsimp only [Prod.map, id]
  split
  · rfl
  · rfl

theorem mutateAll_tapes (rate : Float) (organisms : List Entity) (s : σ) :
    Heredity.mutateAll rate (organisms.map Entity.tape) s =
      ((mutateAll rate organisms s).1.map Entity.tape, (mutateAll rate organisms s).2) := by
  show Draws.forEach (Heredity.mutateIf rate) ((organisms.map Entity.tape).zip
    (Draws.repeated Draws.fraction (organisms.map Entity.tape).length s).1) _ = _
  -- a tape for every organism: the chances that are drawn first are as many, and so the same
  rw [List.length_map, List.zip_map_left]
  exact Draws.forEach_map (mutateIf_tape rate) _ _

theorem heredity_mutate (swarm : Swarm σ) :
    swarm.mutate.1.heredity = swarm.heredity.mutate swarm.mutationRate := by
  have empty : swarm.heredity.organisms.isEmpty = swarm.organisms.isEmpty := List.isEmpty_map
  have many : swarm.heredity.organisms.length = swarm.organisms.length := List.length_map _
  unfold mutate Heredity.mutate
  rw [empty, many]
  split
  · rfl
  · cases swarm.mutationRate.check with
    | error fault => rfl
    | ok rate =>
      have tapes := mutateAll_tapes rate swarm.organisms swarm.source
      dsimp only [heredity]
      rw [tapes]
      rfl

omit [RandomSource σ] in
/-- The updates of a tick leave what is inherited as it was. -/
theorem heredity_updateAll (swarm : Swarm σ) (settings : Settings) :
    (swarm.updateAll settings).heredity = swarm.heredity := by
  have tapes (list : List Entity) :
      (list.map (advanceEntity settings)).map Entity.tape = list.map Entity.tape := by
    rw [List.map_map]
    exact List.map_congr_left fun e _ => (stays_advanceEntity settings e).2
  unfold heredity updateAll
  rw [tapes swarm.organisms, tapes swarm.food]

theorem heredity_stepWith (swarm : Swarm σ) (settings : Settings) :
    (swarm.stepWith settings).1.heredity =
      swarm.heredity.turn (.tick (swarm.rateUnder settings)) := by
  unfold stepWith
  rw [heredity_mutate, heredity_updateAll]
  rfl

theorem heredity_replicate (swarm : Swarm σ) (parent : Tape) (room : Nat)
    (reading : Except ε Settings) :
    (swarm.replicate parent room reading).1.heredity =
      swarm.heredity.copy parent (reading.toOption.any (hasRoom room)) := by
  cases reading with
  | error fault => rfl
  | ok settings =>
    have organisms (child : Tape) :
        (swarm.organisms ++ [new child .organism none none settings]).map Entity.tape =
          swarm.organisms.map Entity.tape ++ [child] := List.map_append
    show _ = swarm.heredity.copy parent (hasRoom room settings)
    rcases swarm.replicate_ok_cases (ε := ε) parent room settings with
      ⟨fits, made⟩ | ⟨fits, fault, failed⟩
    · rw [made, fits]
      exact congrArg (Heredity.mk _ swarm.tick · (swarm.food.map Entity.tape)) (organisms _)
    · rw [failed, fits]
      rfl

/-- A request does to what is inherited what its turn does. -/
theorem heredity_respond (swarm : Swarm σ) (request : Request ε) :
    (swarm.respond request).heredity =
      swarm.heredity.turn (request.turn swarm.rateUnder) := by
  cases request with
  | step reading =>
    cases reading with
    | error fault => rfl
    | ok settings => exact heredity_stepWith swarm settings
  | replicate parent room reading =>
    have place : (swarm.heredity.organisms ++ swarm.heredity.food)[parent]? =
        swarm.entities[parent]?.map Entity.tape := by
      rw [← List.getElem?_map, entities, List.map_append]
      rfl
    unfold respond Request.turn Heredity.turn
    dsimp only
    rw [place]
    cases swarm.entities[parent]? with
    | none => rfl
    | some e => exact heredity_replicate swarm e.tape room reading

/-! ## A history of requests -/

/-- What is inherited after a history is a matter of its turns. -/
theorem heredity_after (swarm : Swarm σ) (history : List (Request ε)) :
    (swarm.after history).heredity =
      swarm.heredity.after (history.map (Request.turn swarm.rateUnder)) := by
  induction history generalizing swarm with
  | nil => rfl
  | cons request rest ih =>
    have next := ih (swarm.respond request)
    rw [rateUnder_respond, heredity_respond] at next
    exact next

/-! ## Founding -/

/-- The mutation rate in force in a swarm founded in some way. -/
def Founding.rateUnder (founding : Founding) (settings : Settings) : Threshold :=
  founding.mutationRate.getD (rateOf settings)

theorem rateUnder_populate (founding : Founding) (settings : Settings) (source : σ) :
    (populate founding settings source).rateUnder = founding.rateUnder := by
  funext later
  show (if founding.mutationRate.isNone then _ else founding.mutationRate.getD _) = _
  unfold Founding.rateUnder
  cases founding.mutationRate <;> rfl

theorem heredity_populate (founding : Founding) (settings : Settings) (source : σ) :
    let first := Draws.repeated (Tape.drawTape Tape.longest (ratioOf settings).limit)
      (founding.organismCount settings).toNat source
    let food := Draws.repeated Tape.drawFood (founding.foodCount settings).toNat first.2
    (populate founding settings source).heredity = ⟨food.2, 0, first.1, food.1⟩ := by
  intro first food
  have tapes (kind : Kind) (list : List Tape) :
      (list.map fun tape => new tape kind none none settings).map Entity.tape = list := by
    rw [List.map_map]
    exact List.map_id list
  show Heredity.mk food.2 0 (List.map _ (List.map _ first.1)) (List.map _ (List.map _ food.1)) = _
  rw [tapes, tapes]

/-! ## Two swarms -/

/-- What a swarm is told, without what it finds then. -/
inductive Call where
  | step
  | replicate (parent : Nat)

/-- What a call finds: settings, and the bytes that are left in memory. -/
structure Conditions where
  settings : Settings
  room : Nat

/-- The request that a call is under some conditions. -/
def Call.under (conditions : Conditions) : Call → Request Empty
  | .step => .step (.ok conditions.settings)
  | .replicate parent => .replicate parent conditions.room (.ok conditions.settings)

/-- Conditions of two swarms that are alike for a call: a step finds the same mutation rate, and a
replication finds room for a child in both swarms or in neither. -/
def Call.Alike (founding other : Founding) (conditions different : Conditions) : Call → Prop
  | .step => founding.rateUnder conditions.settings = other.rateUnder different.settings
  | .replicate _ =>
    hasRoom conditions.room conditions.settings = hasRoom different.room different.settings

theorem Call.turn_under {founding other : Founding} {conditions different : Conditions}
    {call : Call} (alike : call.Alike founding other conditions different) :
    (call.under conditions).turn founding.rateUnder =
      (call.under different).turn other.rateUnder := by
  cases call with
  | step => exact congrArg Turn.tick alike
  | replicate parent => exact congrArg (Turn.copy parent) alike

/-- Two swarms that were founded with the same source, the same counts and the same part of
instructions, and that are told the same, each under conditions of its own. The settings may differ
in any way that leaves a step its mutation rate, and change from call to call; a replication has to
find room for its child in both swarms or in neither. Then the tapes, the tick and the source are
the same in both. -/
theorem tapes_eq_of_alike {founding other : Founding} {base otherBase : Settings} {source : σ}
    {room otherRoom : Nat} {first second : Swarm σ}
    (founded : found room founding base source = .ok first)
    (foundedToo : found otherRoom other otherBase source = .ok second)
    (organisms : founding.organismCount base = other.organismCount otherBase)
    (food : founding.foodCount base = other.foodCount otherBase)
    (ratio : ratioOf base = ratioOf otherBase)
    (history : List (Call × Conditions × Conditions))
    (alike : ∀ told ∈ history, told.1.Alike founding other told.2.1 told.2.2) :
    let one := first.after (history.map fun (call, conditions, _) => call.under conditions)
    let two := second.after (history.map fun (call, _, conditions) => call.under conditions)
    one.organisms.map Entity.tape = two.organisms.map Entity.tape ∧
      one.food.map Entity.tape = two.food.map Entity.tape ∧
      one.tick = two.tick ∧ one.source = two.source := by
  intro one two
  obtain rfl := eq_populate_of_found founded
  obtain rfl := eq_populate_of_found foundedToo
  have populated :
      (populate founding base source).heredity = (populate other otherBase source).heredity := by
    rw [heredity_populate, heredity_populate, organisms, food, ratio]
  have turns : (history.map fun (call, conditions, _) => call.under conditions).map
        (Request.turn founding.rateUnder) =
      (history.map fun (call, _, conditions) => call.under conditions).map
        (Request.turn other.rateUnder) := by
    rw [List.map_map, List.map_map]
    exact List.map_congr_left fun told member => Call.turn_under (alike told member)
  have same : one.heredity = two.heredity := by
    rw [heredity_after, heredity_after, rateUnder_populate, rateUnder_populate, populated, turns]
  exact ⟨congrArg Heredity.organisms same, congrArg Heredity.food same,
    congrArg Heredity.tick same, congrArg Heredity.source same⟩

/-- Settings under which organisms run in every tick. -/
def eager : Settings where
  machine := { patternSize := some 3 }
  organism := { runEvery := some 1, maxSteps := some 7 }
  population := { organisms := some 2, food := some 1, mutationRate := some (.double 1) }

/-- Settings under which food hardly ever runs, and no pattern is seen. -/
def sparing : Settings where
  machine := { patternSize := some (-1) }
  food := { runEvery := some 1000, maxSteps := some 0 }

theorem tapes_eq_of_alike_eager_sparing :
    let other : Founding :=
      { organisms := some 2, food := some 1, mutationRate := some (.double 1) }
    let source := Scripted.ofLists [3, 1, 4] [0.5, 0.25]
    let first := populate {} eager source
    let second := populate other sparing source
    let history : List (Call × Conditions × Conditions) :=
      [(.step, ⟨eager, 0⟩, ⟨sparing, 0⟩), (.replicate 2, ⟨sparing, 0⟩, ⟨eager, 24⟩),
        (.step, ⟨eager, 0⟩, ⟨{}, 0⟩)]
    let one := first.after (history.map fun (call, conditions, _) => call.under conditions)
    let two := second.after (history.map fun (call, _, conditions) => call.under conditions)
    found 72 {} eager source = .ok first ∧ found 0 other sparing source = .ok second ∧
      (∀ told ∈ history, told.1.Alike {} other told.2.1 told.2.2) ∧
      one.organisms.map Entity.tape = two.organisms.map Entity.tape ∧
      one.food.map Entity.tape = two.food.map Entity.tape ∧
      one.tick = two.tick ∧ one.source = two.source := by
  intro other source first second history one two
  have founded : found 72 {} eager source = .ok first := rfl
  have foundedToo : found 0 other sparing source = .ok second := rfl
  have alike : ∀ told ∈ history, told.1.Alike {} other told.2.1 told.2.2 := by
    simp only [history, List.forall_mem_cons]
    exact ⟨rfl, rfl, rfl, fun _ none => nomatch none⟩
  exact ⟨founded, foundedToo, alike,
    tapes_eq_of_alike founded foundedToo rfl rfl rfl history alike⟩

/-- One swarm, and one replication of its food: under one table a child is added, under one that
differs only in a pattern size beyond all blocks there is none. -/
theorem tapes_ne_of_no_room :
    let founding : Founding := { organisms := some 0, food := some 1 }
    let vast : Settings := { machine := { patternSize := some 9223372036854775808 } }
    let first := populate founding {} (Scripted.ofLists [] [])
    let one := first.after [Call.under ⟨{}, 64⟩ (.replicate 0)]
    let two := first.after [Call.under ⟨vast, 64⟩ (.replicate 0)]
    found 64 founding {} (Scripted.ofLists [] []) = .ok first ∧
      founding.rateUnder {} = founding.rateUnder vast ∧
      one.organisms.map Entity.tape = [[62, 62, 0, 0, 0, 0, 0, 0]] ∧
      two.organisms.map Entity.tape = [] ∧
      one.organisms.map Entity.tape ≠ two.organisms.map Entity.tape := by
  intro founding vast first one two
  have child : one.organisms.map Entity.tape = [[62, 62, 0, 0, 0, 0, 0, 0]] := by decide +kernel
  have lost : two.organisms.map Entity.tape = [] := by decide +kernel
  refine ⟨rfl, rfl, child, lost, ?_⟩
  rw [child, lost]
  exact List.cons_ne_nil _ _

end Swarm

end TapeSwarm
