import Mathlib.Data.Option.Basic
import TapeSwarm.Proofs.Swarm.Population

/-!
# Places in a swarm

Who an entity is, is told by its place: organisms and food are numbered apart, nobody moves, and a
child comes to the first free place of the organisms. So one entity can be followed through a
history by looking at one place.

Three facts are all that is needed to follow it: what a request makes of who is at a place
(`member?_respond`), who comes to a free place (`new_of_free`), and who is at a place from the start
(`new_of_founder`).
-/

namespace TapeSwarm

theorem rel_getElem?_of_forall₂ {α β : Type} {r : α → β → Prop} {list : List α} {other : List β}
    (related : List.Forall₂ r list other) (i : Nat) : Option.Rel r list[i]? other[i]? := by
  induction related generalizing i with
  | nil => exact .none
  | cons head _ ih =>
    cases i with
    | zero => exact .some head
    | succ i => exact ih i

namespace Swarm

open Entity

variable {σ ε : Type} [RandomSource σ]

inductive Place where
  | organism (index : Nat)
  | food (index : Nat)
  deriving DecidableEq, Repr

/-- Who is at a place. -/
def member? (swarm : Swarm σ) : Place → Option Entity
  | .organism i => swarm.organisms[i]?
  | .food i => swarm.food[i]?

omit [RandomSource σ] in
theorem mem_entities_iff {swarm : Swarm σ} {e : Entity} :
    e ∈ swarm.entities ↔ ∃ place, swarm.member? place = some e := by
  unfold entities
  rw [List.mem_append, List.mem_iff_getElem?, List.mem_iff_getElem?]
  constructor
  · rintro (⟨i, found⟩ | ⟨i, found⟩)
    · exact ⟨.organism i, found⟩
    · exact ⟨.food i, found⟩
  · rintro ⟨i | i, found⟩
    · exact .inl ⟨i, found⟩
    · exact .inr ⟨i, found⟩

/-! ## One request -/

/-- What a request makes of an entity: a replication leaves everybody as they are. -/
def Request.Meets : Request ε → Entity → Entity → Prop
  | .step reading => Drifts reading
  | .replicate .. => fun e later => later = e

theorem rel_step (swarm : Swarm σ) (reading : Except ε Settings) (place : Place) :
    Option.Rel (Drifts reading) (swarm.member? place) ((swarm.step reading).1.member? place) := by
  cases place with
  | organism i => exact rel_getElem?_of_forall₂ (step_cases swarm reading).2.1 i
  | food i =>
    have food : List.Forall₂ (Drifts reading) swarm.food (swarm.step reading).1.food := by
      cases reading with
      | error fault => exact List.forall₂_same.mpr fun e _ => rfl
      | ok settings =>
        obtain ⟨organisms, source, stepped, _⟩ := stepWith_cases swarm settings
        show List.Forall₂ _ swarm.food (swarm.stepWith settings).1.food
        rw [stepped]
        -- food is updated like an organism that chance does not hit
        exact List.forall₂_map_right_iff.mpr (List.forall₂_same.mpr fun e _ => .inl rfl)
    exact rel_getElem?_of_forall₂ food i

/-- A child comes with the settings of its own reading. -/
theorem ok_of_child? {swarm : Swarm σ} {parent room : Nat} {reading : Except ε Settings}
    {child : Entity} (born : swarm.child? (.replicate parent room reading) = some child) :
    ∃ tape settings, reading = .ok settings ∧ child = new tape .organism none none settings := by
  rcases replicate_cases swarm parent room reading with
    ⟨none, _⟩ | ⟨tape, settings, _, read, _, _, some, _⟩
  · rw [none] at born
    contradiction
  · exact ⟨tape, settings, read, Option.some.inj (born.symm.trans some)⟩

theorem organisms_replicate (swarm : Swarm σ) (parent room : Nat) (reading : Except ε Settings) :
    (swarm.respond (.replicate parent room reading)).organisms =
      swarm.organisms ++ (swarm.child? (.replicate parent room reading)).toList := by
  rcases replicate_cases swarm parent room reading with
    ⟨none, _, left⟩ | ⟨_, _, _, _, _, _, some, left⟩
  · rw [none, left]
    exact (List.append_nil _).symm
  · rw [some, left]
    rfl

theorem food_replicate (swarm : Swarm σ) (parent room : Nat) (reading : Except ε Settings) :
    (swarm.respond (.replicate parent room reading)).food = swarm.food := by
  rcases replicate_cases swarm parent room reading with
    ⟨_, _, left⟩ | ⟨_, _, _, _, _, _, _, left⟩
  · rw [left]
  · rw [left]

/-- Nobody leaves a place, and a request makes of who is there what it does on its own account. -/
theorem member?_respond {swarm : Swarm σ} {place : Place} {e : Entity}
    (there : swarm.member? place = some e) (request : Request ε) :
    ∃ later, (swarm.respond request).member? place = some later ∧ request.Meets e later := by
  cases request with
  | step reading =>
    have related := rel_step swarm reading place
    rw [there] at related
    show ∃ later, (swarm.step reading).1.member? place = some later ∧ Drifts reading e later
    cases found : (swarm.step reading).1.member? place with
    | none =>
      rw [found] at related
      contradiction
    | some later =>
      rw [found] at related
      cases related with
      | some drifts => exact ⟨later, rfl, drifts⟩
  | replicate parent room reading =>
    refine ⟨e, ?_, rfl⟩
    cases place with
    | organism i =>
      have inside := (List.getElem?_eq_some_iff.mp there).1
      show (swarm.respond _).organisms[i]? = some e
      rw [organisms_replicate, List.getElem?_append_left inside]
      exact there
    | food i =>
      show (swarm.respond _).food[i]? = some e
      rw [food_replicate]
      exact there

/-- Who comes to a free place is a child that was just made. -/
theorem new_of_free {swarm : Swarm σ} {place : Place} {e : Entity} {request : Request ε}
    (free : swarm.member? place = none) (there : (swarm.respond request).member? place = some e) :
    ∃ parent room settings tape, request = .replicate parent room (.ok settings) ∧
      e = new tape .organism none none settings := by
  cases request with
  | step reading =>
    have related := rel_step swarm reading place
    rw [free, show (swarm.step reading).1.member? place = some e from there] at related
    contradiction
  | replicate parent room reading =>
    cases place with
    | organism i =>
      replace there :
          (swarm.respond (.replicate parent room reading)).organisms[i]? = some e := there
      rw [organisms_replicate,
        List.getElem?_append_right (List.getElem?_eq_none_iff.mp free)] at there
      have born := Option.mem_toList.mp (List.mem_of_getElem? there)
      obtain ⟨tape, settings, rfl, rfl⟩ := ok_of_child? born
      exact ⟨parent, room, settings, tape, rfl, rfl⟩
    | food i =>
      replace there : (swarm.respond (.replicate parent room reading)).food[i]? = some e := there
      rw [food_replicate, show swarm.food[i]? = none from free] at there
      contradiction

/-- Who is at a place from the start was made with nothing given, under the first settings. -/
theorem new_of_founder {founding : Founding} {settings : Settings} {source : σ} {place : Place}
    {e : Entity} (there : (populate founding settings source).member? place = some e) :
    ∃ tape kind, e = new tape kind none none settings := by
  cases place with
  | organism i =>
    obtain ⟨tape, _, made⟩ :=
      (organisms_populate founding settings source).2 e (List.mem_of_getElem? there)
    exact ⟨tape, .organism, made⟩
  | food i =>
    obtain ⟨tape, _, made⟩ :=
      (food_populate founding settings source).2 e (List.mem_of_getElem? there)
    exact ⟨tape, .food, made⟩

end Swarm

end TapeSwarm
