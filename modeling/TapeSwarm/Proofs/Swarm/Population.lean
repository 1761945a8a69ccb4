import TapeSwarm.Proofs.Entity.Coherence
import TapeSwarm.Proofs.Tape.Growth
import TapeSwarm.Random.Scripted
import TapeSwarm.Swarm.Basic

/-!
# The population of a swarm

A swarm is founded and then told, in any order, to take a step or to replicate one of its entities.
Each request may find other settings, or none that can be read, and a replication may find any room
in memory.

Who is who is a matter of place: no request moves an entity, a step gives each place what its
entity becomes, and a replication adds an organism behind all others. So the organisms are at any
time, place by place, what became of those that were founded or born, in this order
(`organisms_after`), and the food what became of the food (`food_after`). `Becomes` is the relation
between one entity and the same one later on: it lets an entity go through requests of its own,
which makes it coherent at any time, and keeps the length of its tape.

Result: `population_kept`.
-/

namespace TapeSwarm

/-! ## One entity over time -/

namespace Entity

/-- The second entity is the first one later on: it went through requests of its own, and its tape
kept its length. -/
structure Becomes (earlier later : Entity) : Prop where
  requests : ∃ history, earlier.after history = later
  length : later.tape.length = earlier.tape.length

theorem becomes_refl (e : Entity) : e.Becomes e :=
  ⟨⟨[], rfl⟩, rfl⟩

instance : Std.Refl Becomes :=
  ⟨becomes_refl⟩

theorem Becomes.trans {a b c : Entity} (first : a.Becomes b) (second : b.Becomes c) :
    a.Becomes c := by
  obtain ⟨⟨earlier, rfl⟩, firstLength⟩ := first
  obtain ⟨⟨later, rfl⟩, secondLength⟩ := second
  exact ⟨⟨earlier ++ later, after_append a earlier later⟩, secondLength.trans firstLength⟩

theorem Becomes.kind_eq {a b : Entity} (becomes : a.Becomes b) : b.kind = a.kind := by
  obtain ⟨⟨history, rfl⟩, _⟩ := becomes
  exact kind_after a history

/-- What becomes of a new entity is coherent. -/
theorem Becomes.coherent {tape : Tape} {kind : Kind} {runEvery maxSteps : Option Int}
    {settings : Settings} {e : Entity}
    (becomes : (new tape kind runEvery maxSteps settings).Becomes e) :
    ∃ last, e.Coherent (patternSizeFor settings) last := by
  obtain ⟨⟨history, rfl⟩, _⟩ := becomes
  exact ⟨_, (coherent_new tape kind runEvery maxSteps settings).after history⟩

end Entity

/-! ## Lists, place by place -/

theorem forall₂_trans {α : Type} {r : α → α → Prop} (trans : ∀ {a b c}, r a b → r b c → r a c)
    {list middle last : List α} (first : List.Forall₂ r list middle)
    (second : List.Forall₂ r middle last) : List.Forall₂ r list last := by
  induction first generalizing last with
  | nil => exact second
  | cons related _ ih =>
    cases second with
    | cons next rest => exact .cons (trans related next) (ih rest)

theorem forall_mem_of_forall₂ {α β : Type} {r : α → β → Prop} {p : α → Prop} {q : β → Prop}
    (carry : ∀ a b, r a b → p a → q b) {list : List α} {other : List β}
    (related : List.Forall₂ r list other) (all : ∀ a ∈ list, p a) : ∀ b ∈ other, q b := by
  induction related with
  | nil => exact fun b member => nomatch member
  | cons head _ ih =>
    rw [List.forall_mem_cons] at all ⊢
    exact ⟨carry _ _ head all.1, ih all.2⟩

namespace Swarm

open Entity

variable {σ ε : Type} [RandomSource σ]

/-! ## Requests -/

/-- What a swarm can be told to do, with what reading the settings gives then. -/
inductive Request (ε : Type) where
  | step (reading : Except ε Settings)
  /-- The parent is told by its place among all entities; so many bytes are left in memory. -/
  | replicate (parent room : Nat) (reading : Except ε Settings)

/-- Whether a request is a step. -/
def Request.isStep : Request ε → Bool
  | .step _ => true
  | .replicate .. => false

/-- The swarm after a request. Where there is no parent, nothing happens. -/
def respond (swarm : Swarm σ) : Request ε → Swarm σ
  | .step reading => (swarm.step reading).1
  | .replicate parent room reading =>
    match swarm.entities[parent]? with
    | none => swarm
    | some e => (swarm.replicate e.tape room reading).1

/-- The swarm after a history of requests. -/
def after (swarm : Swarm σ) (history : List (Request ε)) : Swarm σ :=
  history.foldl respond swarm

/-- The organism that a request adds, if it is a replication that comes to its end. -/
def child? (swarm : Swarm σ) : Request ε → Option Entity
  | .step _ => none
  | .replicate parent room reading =>
    match swarm.entities[parent]? with
    | none => none
    | some e => (swarm.replicate e.tape room reading).2.toOption

/-- The organisms that a history adds, as they are when they are added, the earliest first. -/
def born (swarm : Swarm σ) : List (Request ε) → List Entity
  | [] => []
  | request :: rest => (swarm.child? request).toList ++ (swarm.respond request).born rest

/-- Whether a number of bytes has room for the pattern that a new entity shows. -/
def hasRoom (room : Nat) (settings : Settings) : Bool :=
  (Snapshot.checkPatterns room 1 (patternSizeFor settings)).isOk

/-- Under settings that can be read, a replication comes to its end if there is room. -/
theorem replicate_ok_cases (swarm : Swarm σ) (parent : Tape) (room : Nat) (settings : Settings) :
    let drawn := Tape.replicate Tape.defaultFidelity parent swarm.source
    let child := new drawn.1 .organism none none settings
    let request := swarm.replicate parent room (.ok settings : Except ε Settings)
    (hasRoom room settings = true ∧ request = ({ swarm with
        source := drawn.2
        organisms := swarm.organisms ++ [child] }, .ok child)) ∨
    (hasRoom room settings = false ∧
      ∃ fault, request = ({ swarm with source := drawn.2 }, .error (.pattern fault))) := by
  unfold replicate hasRoom newWithin
  dsimp only
  cases Snapshot.checkPatterns room 1 (patternSizeFor settings) with
  | error fault => exact .inr ⟨rfl, fault, rfl⟩
  | ok _ => exact .inl ⟨rfl, rfl⟩

/-- What any request may do to food: it is the same pellet later on, with the same tape. -/
def Stays (e later : Entity) : Prop :=
  e.Becomes later ∧ later.tape = e.tape

instance : Std.Refl Stays :=
  ⟨fun e => ⟨becomes_refl e, rfl⟩⟩

theorem Stays.trans {a b c : Entity} (first : Stays a b) (second : Stays b c) : Stays a c :=
  ⟨first.1.trans second.1, second.2.trans first.2⟩

theorem stays_advanceEntity (settings : Settings) (e : Entity) :
    Stays e (advanceEntity settings e) := by
  have tape : (advanceEntity settings e).tape = e.tape := tape_update (e.configure settings)
  exact ⟨⟨⟨[.configure settings, .update], rfl⟩, congrArg List.length tape⟩, tape⟩

/-- An organism with at most one byte of its tape changed, or left as it is. -/
def Mutates (e later : Entity) : Prop :=
  later = e ∨ ∃ tape, Tape.IsPointChange e.tape tape ∧ later = e.setTape tape

theorem Mutates.becomes {e later : Entity} (mutates : Mutates e later) : e.Becomes later := by
  rcases mutates with rfl | ⟨tape, point, rfl⟩
  · exact becomes_refl later
  · exact ⟨⟨[.assign (.bytes tape)], rfl⟩, point.length_eq⟩

theorem Mutates.isPointChange {e later : Entity} (mutates : Mutates e later) :
    Tape.IsPointChange e.tape later.tape := by
  rcases mutates with rfl | ⟨tape, point, rfl⟩
  · exact Tape.isPointChange_refl later.tape
  · exact point

theorem mutates_mutateIf (rate : Float) (hit : Entity × Float) :
    Draws.Always (mutateIf rate hit : Draws σ Entity) (Mutates hit.1) := by
  obtain ⟨e, chance⟩ := hit
  have points : Draws.Always (Tape.mutate e.tape : Draws σ Tape) (Tape.IsPointChange e.tape) :=
    Tape.isPointChange_mutate e.tape
  simp only [mutateIf]
  split
  · exact points.bind fun tape point => Draws.always_pure (.inr ⟨tape, point, rfl⟩)
  · exact Draws.always_pure (.inl rfl)

theorem mutates_mutateAll (rate : Float) (organisms : List Entity) :
    Draws.Always (mutateAll rate organisms : Draws σ (List Entity))
      (List.Forall₂ Mutates organisms) := by
  refine (Draws.always_length_repeated _ _).bind fun chances many s => ?_
  have each := Draws.always_forEach (mutates_mutateIf rate) (organisms.zip chances) s
  -- every organism has a chance, so none is lost where the two lists are zipped
  rwa [← List.forall₂_map_left_iff, List.map_fst_zip (Nat.le_of_eq many.symm)] at each

/-- Mutations change nothing but organisms and the source. -/
theorem mutate_cases (swarm : Swarm σ) :
    ∃ organisms source, swarm.mutate.1 = { swarm with organisms, source } ∧
      List.Forall₂ Mutates swarm.organisms organisms := by
  have unchanged : List.Forall₂ Mutates swarm.organisms swarm.organisms :=
    List.forall₂_same.mpr fun e _ => .inl rfl
  unfold mutate
  split
  · exact ⟨swarm.organisms, swarm.source, rfl, unchanged⟩
  · split
    · exact ⟨swarm.organisms, _, rfl, unchanged⟩
    · exact ⟨_, _, rfl, mutates_mutateAll _ _ _⟩

/-- A step under settings that can be read counts, updates every entity where it is, and may mutate
the organisms. -/
theorem stepWith_cases (swarm : Swarm σ) (settings : Settings) :
    ∃ organisms source,
      (swarm.stepWith settings).1 = { swarm with
        source
        mutationRate := if swarm.givenRate.isNone then rateOf settings else swarm.mutationRate
        tick := swarm.tick + 1
        organisms
        food := swarm.food.map (advanceEntity settings) } ∧
      List.Forall₂ (fun e => Mutates (advanceEntity settings e)) swarm.organisms organisms := by
  obtain ⟨organisms, source, mutated, each⟩ := mutate_cases
    (({ swarm with tick := swarm.tick + 1 } : Swarm σ).updateAll settings)
  exact ⟨organisms, source, mutated, List.forall₂_map_left_iff.mp each⟩

/-- What a step makes of an organism: nothing else without settings, else its update and then
perhaps a mutation. -/
def Drifts (reading : Except ε Settings) (e later : Entity) : Prop :=
  match reading with
  | .error _ => later = e
  | .ok settings => Mutates (advanceEntity settings e) later

theorem Drifts.becomes {reading : Except ε Settings} {e later : Entity}
    (drifts : Drifts reading e later) : e.Becomes later := by
  cases reading with
  | error fault => exact drifts ▸ becomes_refl e
  | ok settings => exact (stays_advanceEntity settings e).1.trans (Mutates.becomes drifts)

/-- A step changes at most one byte of an organism's tape. -/
theorem Drifts.isPointChange {reading : Except ε Settings} {e later : Entity}
    (drifts : Drifts reading e later) : Tape.IsPointChange e.tape later.tape := by
  cases reading with
  | error fault => exact drifts ▸ Tape.isPointChange_refl e.tape
  | ok settings =>
    have point := Mutates.isPointChange drifts
    rwa [(stays_advanceEntity settings e).2] at point

/-- A step counts, gives every entity what it may do to it and moves none of them. -/
theorem step_cases (swarm : Swarm σ) (reading : Except ε Settings) :
    (swarm.step reading).1.tick = swarm.tick + 1 ∧
      List.Forall₂ (Drifts reading) swarm.organisms (swarm.step reading).1.organisms ∧
      List.Forall₂ Stays swarm.food (swarm.step reading).1.food := by
  cases reading with
  | error fault =>
    exact ⟨rfl, List.forall₂_same.mpr fun e _ => rfl, List.forall₂_refl _⟩
  | ok settings =>
    obtain ⟨organisms, source, stepped, each⟩ := stepWith_cases swarm settings
    show (swarm.stepWith settings).1.tick = swarm.tick + 1 ∧
      List.Forall₂ _ swarm.organisms (swarm.stepWith settings).1.organisms ∧
      List.Forall₂ Stays swarm.food (swarm.stepWith settings).1.food
    rw [stepped]
    exact ⟨rfl, each, List.forall₂_map_right_iff.mpr
      (List.forall₂_same.mpr fun e _ => stays_advanceEntity settings e)⟩

/-- A replication that comes to its end adds a new organism behind the others; any other one
changes nothing but the source. -/
theorem replicate_cases (swarm : Swarm σ) (parent room : Nat) (reading : Except ε Settings) :
    (swarm.child? (.replicate parent room reading) = none ∧
      ∃ source, swarm.respond (.replicate parent room reading) = { swarm with source }) ∨
    ∃ tape settings source,
      reading = .ok settings ∧ Tape.shortest ≤ tape.length ∧ tape.length ≤ Tape.longest ∧
      swarm.child? (.replicate parent room reading) = some (new tape .organism none none settings) ∧
      swarm.respond (.replicate parent room reading) = { swarm with
        source
        organisms := swarm.organisms ++ [new tape .organism none none settings] } := by
  simp only [child?, respond]
  cases swarm.entities[parent]? with
  | none => exact .inl ⟨rfl, swarm.source, rfl⟩
  | some e =>
    cases reading with
    | error fault => exact .inl ⟨rfl, _, rfl⟩
    | ok settings =>
      have length : (Tape.replicate Tape.defaultFidelity e.tape swarm.source).1.length = _ :=
        Tape.length_replicate Tape.defaultFidelity e.tape swarm.source
      have order : Tape.shortest ≤ Tape.longest := by decide
      dsimp only
      rcases swarm.replicate_ok_cases (ε := ε) e.tape room settings with
        ⟨_, made⟩ | ⟨_, fault, failed⟩
      · rw [made]
        refine .inr ⟨(Tape.replicate Tape.defaultFidelity e.tape swarm.source).1, settings, _, rfl,
          ?_, ?_, rfl, rfl⟩
        · omega
        · omega
      · rw [failed]
        exact .inl ⟨rfl, _, rfl⟩

/-- A replication comes to its end exactly if there is a parent, the settings can be read and there
is room for the child. -/
theorem isSome_child? (swarm : Swarm σ) (parent room : Nat) (reading : Except ε Settings) :
    (swarm.child? (.replicate parent room reading)).isSome =
      (decide (parent < swarm.entities.length) && reading.toOption.any (hasRoom room)) := by
  simp only [child?]
  cases found : swarm.entities[parent]? with
  | none =>
    have outside := List.getElem?_eq_none_iff.mp found
    rw [decide_eq_false (Nat.not_lt_of_le outside)]
    rfl
  | some e =>
    have inside := (List.getElem?_eq_some_iff.mp found).1
    rw [decide_eq_true inside]
    cases reading with
    | error fault => rfl
    | ok settings =>
      show ((swarm.replicate e.tape room (.ok settings)).2.toOption).isSome = hasRoom room settings
      rcases swarm.replicate_ok_cases (ε := ε) e.tape room settings with
        ⟨fits, made⟩ | ⟨fits, fault, failed⟩
      · rw [made, fits]
        rfl
      · rw [failed, fits]
        rfl

/-- What a request leaves: the organisms are what became of those before it and of the one it
added, the food is what became of the food, and only a step counts. -/
theorem respond_cases (swarm : Swarm σ) (request : Request ε) :
    (swarm.respond request).tick = swarm.tick + (if request.isStep then 1 else 0) ∧
      List.Forall₂ Becomes (swarm.organisms ++ (swarm.child? request).toList)
        (swarm.respond request).organisms ∧
      List.Forall₂ Stays swarm.food (swarm.respond request).food := by
  cases request with
  | step reading =>
    obtain ⟨tick, organisms, food⟩ := step_cases swarm reading
    refine ⟨tick, ?_, food⟩
    show List.Forall₂ Becomes (swarm.organisms ++ []) (swarm.step reading).1.organisms
    rw [List.append_nil]
    exact organisms.imp fun _ _ drifts => drifts.becomes
  | replicate parent room reading =>
    rcases replicate_cases swarm parent room reading with
      ⟨none, source, left⟩ | ⟨tape, settings, source, _, _, _, some, left⟩
    · rw [none, left, Option.toList_none, List.append_nil]
      exact ⟨rfl, List.forall₂_refl _, List.forall₂_refl _⟩
    · rw [some, left]
      exact ⟨rfl, List.forall₂_refl _, List.forall₂_refl _⟩

/-! ## A history of requests -/

theorem tick_after (swarm : Swarm σ) (history : List (Request ε)) :
    (swarm.after history).tick = swarm.tick + history.countP Request.isStep := by
  induction history generalizing swarm with
  | nil => rfl
  | cons request rest ih =>
    have next := ih (swarm.respond request)
    rw [(respond_cases swarm request).1] at next
    rw [List.countP_cons, Nat.add_comm (rest.countP _), ← Nat.add_assoc]
    exact next

/-- At any time the organisms are, place by place, what became of those there were and of those that
were born since. -/
theorem organisms_after (swarm : Swarm σ) (history : List (Request ε)) :
    List.Forall₂ Becomes (swarm.organisms ++ swarm.born history)
      (swarm.after history).organisms := by
  induction history generalizing swarm with
  | nil =>
    rw [born, List.append_nil]
    exact List.forall₂_refl _
  | cons request rest ih =>
    have first : List.Forall₂ Becomes (swarm.organisms ++ (swarm.child? request).toList ++
        (swarm.respond request).born rest)
        ((swarm.respond request).organisms ++ (swarm.respond request).born rest) :=
      List.rel_append (respond_cases swarm request).2.1 (List.forall₂_refl _)
    rw [List.append_assoc] at first
    exact forall₂_trans (r := Becomes) Becomes.trans first (ih (swarm.respond request))

/-- At any time the food is, place by place, what became of the food there was. -/
theorem food_after (swarm : Swarm σ) (history : List (Request ε)) :
    List.Forall₂ Stays swarm.food (swarm.after history).food := by
  induction history generalizing swarm with
  | nil => exact List.forall₂_refl _
  | cons request rest ih =>
    have first := (respond_cases swarm request).2.2
    exact forall₂_trans (r := Stays) Stays.trans first (ih (swarm.respond request))

/-! ## Founders and newborn -/

theorem found_eq_ok_iff {room : Nat} {founding : Founding} {settings : Settings} {source : σ}
    {first : Swarm σ} :
    found room founding settings source = .ok first ↔
      founding.check room settings = .ok () ∧ first = populate founding settings source := by
  unfold found
  cases founding.check room settings with
  | error fault => exact iff_of_false nofun nofun
  | ok _ => exact ⟨fun founded => ⟨rfl, (Except.ok.inj founded).symm⟩, fun ⟨_, same⟩ => same ▸ rfl⟩

/-- A swarm that was founded is the populated one. -/
theorem eq_populate_of_found {room : Nat} {founding : Founding} {settings : Settings} {source : σ}
    {first : Swarm σ} (founded : found room founding settings source = .ok first) :
    first = populate founding settings source :=
  (found_eq_ok_iff.mp founded).2

/-- The first organisms: as many as are asked for, and new with tapes of the longest length. -/
theorem organisms_populate (founding : Founding) (settings : Settings) (source : σ) :
    (populate founding settings source).organisms.length =
        (founding.organismCount settings).toNat ∧
      ∀ e ∈ (populate founding settings source).organisms, ∃ tape : Tape,
        tape.length = Tape.longest ∧ e = new tape .organism none none settings := by
  have each : Draws.Always (Tape.drawTape Tape.longest (ratioOf settings).limit : Draws σ Tape)
      (·.length = Tape.longest) := Tape.length_drawTape _ _
  obtain ⟨many, lengths⟩ := each.repeated (founding.organismCount settings).toNat source
  refine ⟨(List.length_map _).trans many, fun e member => ?_⟩
  obtain ⟨tape, drawn, rfl⟩ := List.mem_map.mp member
  exact ⟨tape, lengths tape drawn, rfl⟩

/-- The food: as much as is asked for, and new with food tapes. -/
theorem food_populate (founding : Founding) (settings : Settings) (source : σ) :
    (populate founding settings source).food.length = (founding.foodCount settings).toNat ∧
      ∀ e ∈ (populate founding settings source).food, ∃ tape : Tape,
        Tape.IsFood tape ∧ e = new tape .food none none settings := by
  have each : Draws.Always (Tape.drawFood : Draws σ Tape) Tape.IsFood := Tape.isFood_drawFood
  obtain ⟨many, heads⟩ := each.repeated (founding.foodCount settings).toNat
    (Draws.repeated (Tape.drawTape Tape.longest (ratioOf settings).limit)
      (founding.organismCount settings).toNat source).2
  refine ⟨(List.length_map _).trans many, fun e member => ?_⟩
  obtain ⟨tape, drawn, rfl⟩ := List.mem_map.mp member
  exact ⟨tape, heads tape drawn, rfl⟩

/-- Who is born is new, with a tape of a length within the limits. -/
theorem exists_of_mem_born {swarm : Swarm σ} {history : List (Request ε)} {e : Entity}
    (member : e ∈ swarm.born history) : ∃ tape settings,
      Tape.shortest ≤ tape.length ∧ tape.length ≤ Tape.longest ∧
        e = new tape .organism none none settings := by
  induction history generalizing swarm with
  | nil => exact nomatch member
  | cons request rest ih =>
    rcases List.mem_append.mp member with now | later
    · rw [Option.mem_toList] at now
      cases request with
      | step reading => exact nomatch now
      | replicate parent room reading =>
        rcases replicate_cases swarm parent room reading with
          ⟨none, _⟩ | ⟨tape, settings, _, _, atLeast, atMost, some, _⟩
        · rw [none] at now
          exact nomatch now
        · rw [some] at now
          exact ⟨tape, settings, atLeast, atMost, (Option.some.inj now).symm⟩
    · exact ih later

/-- So is who was founded. -/
theorem exists_of_mem_created {founding : Founding} {settings : Settings} {source : σ}
    {history : List (Request ε)} {e : Entity}
    (member : e ∈ (populate founding settings source).organisms ++
      (populate founding settings source).born history) : ∃ tape settings,
      Tape.shortest ≤ tape.length ∧ tape.length ≤ Tape.longest ∧
        e = new tape .organism none none settings := by
  rcases List.mem_append.mp member with founder | newborn
  · obtain ⟨tape, length, rfl⟩ := (organisms_populate founding settings source).2 e founder
    have order : Tape.shortest ≤ Tape.longest := by decide
    exact ⟨tape, settings, length ▸ order, Nat.le_of_eq length, rfl⟩
  · exact exists_of_mem_born newborn

/-! ## The population -/

/-- What becomes of new food is food with the tape it was made with. -/
theorem food_of_stays {e : Entity} {tape : Tape} {settings : Settings} (isFood : Tape.IsFood tape)
    (stays : Stays (new tape .food none none settings) e) :
    e.kind = .food ∧ e.tape.length = 8 ∧ (∀ b ∈ e.tape.take 2, isInstruction b = true) ∧
      e.complexity = e.tape.complexity ∧ 2 ≤ e.complexity := by
  obtain ⟨becomes, same⟩ := stays
  obtain ⟨_, coherent⟩ := becomes.coherent
  have known := coherent.complexity
  replace isFood : Tape.IsFood e.tape := same ▸ isFood
  exact ⟨becomes.kind_eq, isFood.length, isFood.head, known, known ▸ isFood.two_le_complexity⟩

/-- What becomes of a new organism keeps within the limits. -/
theorem organism_of_becomes {e : Entity} {tape : Tape} {settings : Settings}
    (atLeast : Tape.shortest ≤ tape.length) (atMost : tape.length ≤ Tape.longest)
    (becomes : (new tape .organism none none settings).Becomes e) :
    e.kind = .organism ∧ 8 ≤ e.tape.length ∧ e.tape.length ≤ 64 ∧
      e.complexity = e.tape.complexity ∧ e.complexity ≤ 64 := by
  obtain ⟨_, coherent⟩ := becomes.coherent
  have known := coherent.complexity
  have few := Tape.complexity_le_length e.tape
  have length : e.tape.length = tape.length := becomes.length
  rw [← length] at atLeast atMost
  exact ⟨becomes.kind_eq, atLeast, atMost, known, known ▸ Nat.le_trans few atMost⟩

/-- What holds of a swarm that was founded, after any requests (`earlier`) and after any more
(`later`), whatever settings and room these find and whatever is drawn. The tick counts the steps.
The food pellets are those of the start, with the tapes they were made with, of eight bytes that
start with two instructions. The organisms are, place by place, what became of the earlier ones and
of those born since; their tapes keep the length they were made with, 64 for the first organisms and
from 8 to 64 for all. A step makes of an organism what `Drifts` says, and changes at most one byte
of its tape. A replication leaves all entities as they are and adds an organism, if it has a parent,
settings and room. -/
theorem population_kept {room : Nat} {founding : Founding} {settings : Settings} {source : σ}
    {first : Swarm σ} (founded : found room founding settings source = .ok first)
    (earlier later : List (Request ε)) :
    let before := first.after earlier
    let now := before.after later
    now.tick = (earlier ++ later).countP Request.isStep ∧
      now.food.length = (founding.foodCount settings).toNat ∧
      now.organisms.length =
        (founding.organismCount settings).toNat + (first.born (earlier ++ later)).length ∧
      List.Forall₂ Stays before.food now.food ∧
      List.Forall₂ Becomes (before.organisms ++ before.born later) now.organisms ∧
      (∀ e ∈ now.food, e.kind = .food ∧ e.tape.length = 8 ∧
        (∀ b ∈ e.tape.take 2, isInstruction b = true) ∧
        e.complexity = e.tape.complexity ∧ 2 ≤ e.complexity) ∧
      (∀ e ∈ now.organisms, e.kind = .organism ∧ 8 ≤ e.tape.length ∧ e.tape.length ≤ 64 ∧
        e.complexity = e.tape.complexity ∧ e.complexity ≤ 64) ∧
      (∀ e ∈ first.organisms, e.tape.length = 64) ∧
      (∀ reading : Except ε Settings, List.Forall₂
        (fun e later => Drifts reading e later ∧ Tape.IsPointChange e.tape later.tape)
        now.organisms (now.step reading).1.organisms) ∧
      ∀ (parent left : Nat) (reading : Except ε Settings),
        let request := Request.replicate parent left reading
        (now.child? request).isSome =
            (decide (parent < now.entities.length) && reading.toOption.any (hasRoom left)) ∧
          (now.respond request).organisms = now.organisms ++ (now.child? request).toList ∧
          (now.respond request).food = now.food := by
  intro before now
  obtain rfl := eq_populate_of_found founded
  have joined : (populate founding settings source).after (earlier ++ later) = now :=
    List.foldl_append
  obtain ⟨foodCount, foodTapes⟩ := food_populate founding settings source
  obtain ⟨organismCount, organismTapes⟩ := organisms_populate founding settings source
  have food := joined ▸ food_after (populate founding settings source) (earlier ++ later)
  have organisms := joined ▸ organisms_after (populate founding settings source) (earlier ++ later)
  refine ⟨?_, food.length_eq.symm.trans foodCount, ?_, food_after before later,
    organisms_after before later, ?_, ?_, ?_, fun reading => ?_, fun parent left reading => ?_⟩
  · rw [← joined, tick_after]
    exact Nat.zero_add _
  · rw [← organisms.length_eq, List.length_append, organismCount]
  · refine forall_mem_of_forall₂ ?_ food foodTapes
    rintro _ e stays ⟨tape, isFood, rfl⟩
    exact food_of_stays isFood stays
  · refine forall_mem_of_forall₂ ?_ organisms fun e member => exists_of_mem_created member
    rintro _ e becomes ⟨tape, madeUnder, atLeast, atMost, rfl⟩
    exact organism_of_becomes atLeast atMost becomes
  · intro e member
    obtain ⟨tape, length, rfl⟩ := organismTapes e member
    exact length
  · exact (step_cases now reading).2.1.imp fun _ _ drifts => ⟨drifts, drifts.isPointChange⟩
  · intro request
    refine ⟨isSome_child? now parent left reading, ?_⟩
    rcases replicate_cases now parent left reading with
      ⟨none, source, left⟩ | ⟨tape, childSettings, source, _, _, _, some, left⟩
    · rw [none, left]
      exact ⟨(List.append_nil _).symm, rfl⟩
    · rw [some, left]
      exact ⟨rfl, rfl⟩

/-- A food pellet has a child, after a step and in a room for one pattern. -/
theorem population_kept_child :
    let founding : Founding := { organisms := some 1, food := some 1 }
    let first := populate founding {} (Scripted.ofLists [] [])
    let earlier : List (Request Unit) := [.step (.ok {})]
    let later : List (Request Unit) := [.replicate 1 64 (.ok {})]
    let now := (first.after earlier).after later
    found 128 founding {} (Scripted.ofLists [] []) = .ok first ∧ now.tick = 1 ∧
      now.food.length = 1 ∧ now.organisms.length = 2 ∧
      ∀ e ∈ now.organisms, 8 ≤ e.tape.length ∧ e.tape.length ≤ 64 := by
  intro founding first earlier later now
  have founded : found 128 founding {} (Scripted.ofLists [] []) = .ok first := rfl
  obtain ⟨tick, food, organisms, -, -, -, lengths, -⟩ := population_kept founded earlier later
  have child : (first.born (earlier ++ later)).length = 1 := by decide +kernel
  rw [child] at organisms
  exact ⟨founded, tick, food, organisms, fun e member =>
    ⟨(lengths e member).2.1, (lengths e member).2.2.1⟩⟩

end Swarm

end TapeSwarm
