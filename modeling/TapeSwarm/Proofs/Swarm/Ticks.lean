import TapeSwarm.Proofs.Swarm.Population
import TapeSwarm.Random.Scripted

/-!
# Steps that fail

A step stalls if it cannot read its settings. By then it has counted its tick, and this is all that
a stalled step leaves behind. No request reads the tick (`respond_withTick`), so a history goes as
if its stalled steps had never been tried, with a tick that is ahead by one for each of them
(`after_advancing`).

The entities count for themselves, and count an update only where a step gets to it. Who was there
from the start has counted the steps that advanced (`counts_after`). So the tick tells how often the
entities were advanced, and agrees with what they counted, as long as no step has stalled, and never
again once one has.

Results:
1. `failed_steps_count`: what stalled steps do in any history.
2. `tick_counts_failed_step`: one stalled step, and a tick that no entity has seen.
-/

namespace TapeSwarm.Swarm

open Entity

variable {σ ε : Type} [RandomSource σ]

/-! ## Steps that stall and steps that advance -/

namespace Request

/-- Whether a request is a step that cannot read its settings. -/
def stalls : Request ε → Bool
  | .step (.error _) => true
  | .step (.ok _) | .replicate .. => false

/-- Whether a request is a step that gets to the entities. -/
def advances : Request ε → Bool
  | .step (.ok _) => true
  | .step (.error _) | .replicate .. => false

/-- What is left of a history without its stalled steps. -/
def advancing (history : List (Request ε)) : List (Request ε) :=
  history.filter (!·.stalls)

theorem countP_isStep (history : List (Request ε)) :
    history.countP isStep = history.countP advances + history.countP stalls := by
  induction history with
  | nil => rfl
  | cons request rest ih =>
    rw [List.countP_cons, List.countP_cons, List.countP_cons, ih]
    rcases request with (_ | _) | _
    · exact Nat.add_assoc _ _ _
    · exact Nat.add_right_comm _ _ _
    · rfl

theorem countP_stalls_eq_zero {history : List (Request ε)} :
    history.countP stalls = 0 ↔ ∀ fault, .step (.error fault) ∉ history := by
  rw [List.countP_eq_zero]
  constructor
  · exact fun none fault member => none _ member rfl
  · rintro none ((fault | _) | _) member stalls
    · exact none fault member
    · contradiction
    · contradiction

end Request

open Request

/-! ## The tick -/

/-- The same swarm at another tick. -/
def withTick (swarm : Swarm σ) (tick : Nat) : Swarm σ :=
  { swarm with tick }

omit [RandomSource σ] in
theorem withTick_withTick (swarm : Swarm σ) (tick later : Nat) :
    (swarm.withTick tick).withTick later = swarm.withTick later :=
  rfl

theorem step_error (swarm : Swarm σ) (fault : ε) :
    swarm.step (.error fault) = (swarm.withTick (swarm.tick + 1), .error (.settings fault)) :=
  rfl

theorem mutate_withTick (swarm : Swarm σ) (tick : Nat) :
    (swarm.withTick tick).mutate.1 = swarm.mutate.1.withTick tick := by
  have same : (swarm.withTick tick).mutationRate = swarm.mutationRate ∧
      (swarm.withTick tick).organisms = swarm.organisms := ⟨rfl, rfl⟩
  unfold mutate
  rw [same.1, same.2]
  by_cases still : (swarm.mutationRate.isAtMostZero || swarm.organisms.isEmpty) = true
  · rw [if_pos still, if_pos still]
  · rw [if_neg still, if_neg still]
    cases swarm.mutationRate.check <;> rfl

theorem replicate_withTick (swarm : Swarm σ) (tick : Nat) (parent : Tape) (room : Nat)
    (reading : Except ε Settings) :
    ((swarm.withTick tick).replicate parent room reading).1 =
      (swarm.replicate parent room reading).1.withTick tick := by
  cases reading with
  | error fault => rfl
  | ok settings =>
    unfold replicate
    dsimp only [withTick]
    rcases Tape.replicate Tape.defaultFidelity parent swarm.source with ⟨tape, source⟩
    dsimp only
    cases newWithin room tape .organism none none settings <;> rfl

/-- What a request does is the same at every tick. -/
theorem respond_withTick (swarm : Swarm σ) (request : Request ε) (tick : Nat) :
    (swarm.withTick tick).respond request =
      (swarm.respond request).withTick (tick + if request.isStep then 1 else 0) := by
  cases request with
  | step reading =>
    cases reading with
    | error fault => rfl
    | ok settings =>
      show ((swarm.withTick (tick + 1)).updateAll settings).mutate.1 =
        ((swarm.withTick (swarm.tick + 1)).updateAll settings).mutate.1.withTick (tick + 1)
      rw [← mutate_withTick]
      rfl
  | replicate parent room reading =>
    have same : (swarm.withTick tick).entities = swarm.entities := rfl
    unfold respond
    dsimp only
    rw [same]
    cases swarm.entities[parent]? with
    | none => rfl
    | some e => exact replicate_withTick swarm tick e.tape room reading

theorem after_withTick (swarm : Swarm σ) (history : List (Request ε)) (tick : Nat) :
    (swarm.withTick tick).after history =
      (swarm.after history).withTick (tick + history.countP isStep) := by
  induction history generalizing swarm tick with
  | nil => rfl
  | cons request rest ih =>
    show ((swarm.withTick tick).respond request).after rest =
      ((swarm.respond request).after rest).withTick _
    rw [respond_withTick, ih, List.countP_cons, Nat.add_assoc, Nat.add_comm (rest.countP _)]

/-- Stalled steps leave nothing behind but their ticks. -/
theorem after_advancing (swarm : Swarm σ) (history : List (Request ε)) :
    swarm.after history =
      (swarm.after (advancing history)).withTick (swarm.tick + history.countP isStep) := by
  induction history generalizing swarm with
  | nil => rfl
  | cons request rest ih =>
    show (swarm.respond request).after rest = _
    rw [ih, (respond_cases swarm request).1, List.countP_cons, Nat.add_comm (rest.countP _),
      ← Nat.add_assoc]
    -- a stalled step has only moved the tick, and the rest of the history carries this along
    cases stalled : request.stalls with
    | true =>
      have skipped : advancing (request :: rest) = advancing rest :=
        List.filter_cons_of_neg (by rw [stalled]; decide)
      have idle : swarm.respond request = swarm.withTick (swarm.tick + 1) := by
        rcases request with (fault | _) | _
        · rfl
        · contradiction
        · contradiction
      rw [skipped, idle, after_withTick, withTick_withTick]
    | false =>
      have kept : advancing (request :: rest) = request :: advancing rest :=
        List.filter_cons_of_pos (by rw [stalled]; decide)
      rw [kept]
      rfl

/-! ## The entities' own counts -/

theorem updates_execute (e : Entity) : e.execute.updates = e.updates := by
  cases kind : e.kind with
  | food => rw [execute_of_food kind]
  | organism => rw [execute_of_organism kind]

theorem updates_advanceEntity (settings : Settings) (e : Entity) :
    (advanceEntity settings e).updates = e.updates + 1 := by
  unfold advanceEntity
  rcases update_cases (e.configure settings) with ⟨_, ran⟩ | ⟨_, passed⟩
  · rw [ran]
    exact updates_execute (e.configure settings).counted
  · rw [passed]
    rfl

theorem Mutates.updates_eq {e later : Entity} (mutates : Mutates e later) :
    later.updates = e.updates := by
  rcases mutates with rfl | ⟨tape, _, rfl⟩
  · rfl
  · rfl

/-- What entities have counted. -/
def counts (list : List Entity) : List Nat :=
  list.map Entity.updates

theorem counts_of_forall₂ {list later : List Entity} {n : Nat}
    (each : List.Forall₂ (fun e later => later.updates = e.updates + n) list later) :
    counts later = (counts list).map (· + n) := by
  induction each with
  | nil => rfl
  | cons head _ ih =>
    show _ :: counts _ = _ :: (counts _).map (· + n)
    rw [head, ih]

theorem map_add_zero (list : List Nat) : list.map (· + 0) = list :=
  List.map_id list

/-- A step that advances counts in every entity, and no other request does. Nobody is lost, and new
organisms come behind the others. -/
theorem counts_respond (swarm : Swarm σ) (request : Request ε) :
    let worth := if request.advances then 1 else 0
    (counts swarm.organisms).map (· + worth) <+: counts (swarm.respond request).organisms ∧
      counts (swarm.respond request).food = (counts swarm.food).map (· + worth) := by
  intro worth
  cases request with
  | step reading =>
    cases reading with
    | error fault =>
      show (counts swarm.organisms).map (· + 0) <+: counts swarm.organisms ∧
        counts swarm.food = (counts swarm.food).map (· + 0)
      rw [map_add_zero, map_add_zero]
      exact ⟨List.prefix_refl _, rfl⟩
    | ok settings =>
      obtain ⟨organisms, source, stepped, each⟩ := stepWith_cases swarm settings
      show (counts swarm.organisms).map (· + 1) <+: counts (swarm.stepWith settings).1.organisms ∧
        counts (swarm.stepWith settings).1.food = (counts swarm.food).map (· + 1)
      have organismCounts : counts organisms = (counts swarm.organisms).map (· + 1) :=
        counts_of_forall₂ (each.imp fun e later mutates =>
          (Mutates.updates_eq mutates).trans (updates_advanceEntity settings e))
      have foodCounts : counts (swarm.food.map (advanceEntity settings)) =
          (counts swarm.food).map (· + 1) :=
        counts_of_forall₂ (List.forall₂_map_right_iff.mpr
          (List.forall₂_same.mpr fun e _ => updates_advanceEntity settings e))
      rw [stepped]
      exact ⟨organismCounts ▸ List.prefix_refl _, foodCounts⟩
  | replicate parent room reading =>
    show (counts swarm.organisms).map (· + 0) <+: _ ∧ _ = (counts swarm.food).map (· + 0)
    rw [map_add_zero, map_add_zero]
    rcases replicate_cases swarm parent room reading with
      ⟨_, _, left⟩ | ⟨_, _, _, _, _, _, _, left⟩
    · rw [left]
      exact ⟨List.prefix_refl _, rfl⟩
    · rw [left]
      refine ⟨?_, rfl⟩
      show counts _ <+: List.map _ (_ ++ _)
      rw [List.map_append]
      exact List.prefix_append _ _

theorem counts_after (swarm : Swarm σ) (history : List (Request ε)) :
    (counts swarm.organisms).map (· + history.countP advances) <+:
        counts (swarm.after history).organisms ∧
      counts (swarm.after history).food =
        (counts swarm.food).map (· + history.countP advances) := by
  induction history generalizing swarm with
  | nil =>
    show (counts swarm.organisms).map (· + 0) <+: _ ∧ _ = (counts swarm.food).map (· + 0)
    rw [map_add_zero, map_add_zero]
    exact ⟨List.prefix_refl _, rfl⟩
  | cons request rest ih =>
    obtain ⟨organisms, food⟩ := counts_respond swarm request
    obtain ⟨laterOrganisms, laterFood⟩ := ih (swarm.respond request)
    have both (list : List Nat) : list.map (· + (request :: rest).countP advances) =
        (list.map (· + if request.advances then 1 else 0)).map (· + rest.countP advances) := by
      rw [List.map_map]
      refine List.map_congr_left fun n _ => ?_
      rw [List.countP_cons, Nat.add_comm (rest.countP _)]
      exact (Nat.add_assoc _ _ _).symm
    rw [both, both, ← food]
    exact ⟨(organisms.map _).trans laterOrganisms, laterFood⟩

/-- Nobody has counted anything when a swarm is founded. -/
theorem counts_populate (founding : Founding) (settings : Settings) (source : σ) :
    let first := populate founding settings source
    counts first.organisms = List.replicate (founding.organismCount settings).toNat 0 ∧
      counts first.food = List.replicate (founding.foodCount settings).toNat 0 := by
  intro first
  obtain ⟨many, organisms⟩ := organisms_populate founding settings source
  obtain ⟨much, food⟩ := food_populate founding settings source
  constructor
  · refine List.eq_replicate_iff.mpr ⟨(List.length_map _).trans many, fun n member => ?_⟩
    obtain ⟨e, founder, rfl⟩ := List.mem_map.mp member
    obtain ⟨tape, _, rfl⟩ := organisms e founder
    rfl
  · refine List.eq_replicate_iff.mpr ⟨(List.length_map _).trans much, fun n member => ?_⟩
    obtain ⟨e, founder, rfl⟩ := List.mem_map.mp member
    obtain ⟨tape, _, rfl⟩ := food e founder
    rfl

/-! ## Histories with failed steps -/

/-- A founded swarm after any history. One more step that cannot read its settings changes the tick
and nothing else. Without its stalled steps the history leads to the same swarm, but for the tick,
which counts them too. The first organisms and all food have counted the steps that advanced, so the
tick agrees with them exactly if no step has stalled. -/
theorem failed_steps_count {room : Nat} {founding : Founding} {settings : Settings} {source : σ}
    {first : Swarm σ} (founded : found room founding settings source = .ok first)
    (history : List (Request ε)) :
    let now := first.after history
    let completed := history.countP advances
    let founders := (founding.organismCount settings).toNat
    (∀ fault : ε,
        now.step (.error fault) = (now.withTick (now.tick + 1), .error (.settings fault))) ∧
      now = (first.after (advancing history)).withTick (completed + history.countP stalls) ∧
      (counts now.organisms).take founders = List.replicate founders completed ∧
      counts now.food = List.replicate (founding.foodCount settings).toNat completed ∧
      (now.tick = completed ↔ ∀ fault, .step (.error fault) ∉ history) := by
  intro now completed founders
  obtain rfl := eq_populate_of_found founded
  have undisturbed := after_advancing (populate founding settings source) history
  rw [show (populate founding settings source).tick = 0 from rfl, Nat.zero_add,
    countP_isStep] at undisturbed
  obtain ⟨organisms, food⟩ := counts_after (populate founding settings source) history
  obtain ⟨first, fed⟩ := counts_populate founding settings source
  rw [first, List.map_replicate, Nat.zero_add] at organisms
  rw [fed, List.map_replicate, Nat.zero_add] at food
  have tick : now.tick = completed + history.countP stalls := congrArg Swarm.tick undisturbed
  refine ⟨step_error now, undisturbed, ?_, food, ?_⟩
  · have taken := List.prefix_iff_eq_take.mp organisms
    rw [List.length_replicate] at taken
    exact taken.symm
  · rw [tick, Nat.add_eq_left, countP_stalls_eq_zero]

/-- Of two steps the second advances: the tick is ahead of the entities by the first. -/
theorem failed_steps_count_once :
    let founding : Founding := { organisms := some 1, food := some 1 }
    let first := populate founding {} (Scripted.ofLists [] [])
    let now := first.after [.step (.error ()), .step (.ok {})]
    found 128 founding {} (Scripted.ofLists [] []) = .ok first ∧
      now.tick ≠ 1 ∧ counts now.food = [1] ∧ (counts now.organisms).take 1 = [1] := by
  intro founding first now
  have founded : found 128 founding {} (Scripted.ofLists [] []) = .ok first := rfl
  obtain ⟨-, -, organisms, food, agrees⟩ :=
    failed_steps_count founded [.step (.error ()), .step (.ok {})]
  exact ⟨founded, fun tick => agrees.mp tick () List.mem_cons_self, food, organisms⟩

/-- After one stalled step the tick is one, and no entity has counted anything. -/
theorem tick_counts_failed_step :
    let founding : Founding := { organisms := some 2, food := some 1 }
    let first := populate founding {} (Scripted.ofLists [] [])
    let now := first.after [.step (.error ())]
    (found 192 founding {} (Scripted.ofLists [] [])).isOk = true ∧
      now.tick ≠ first.tick ∧ now.tick = 1 ∧ counts now.entities = [0, 0, 0] := by
  decide +kernel

end TapeSwarm.Swarm
