import Mathlib.Logic.Function.Iterate
import TapeSwarm.Proofs.Swarm.Founding
import TapeSwarm.Proofs.Swarm.Schedule
import TapeSwarm.Swarm.Stats

/-!
# Swarms without mutation

Where the mutation rate is not positive, a step does no more than update everybody
(`stepTimes_of_frozen`). No tape changes then, and nothing is drawn.

So an entity runs one tape with one budget, again and again on the same machine. `Undisturbed` says
what has come of it after any number of updates: before the first run nothing is shown, and every
run shows what the tape shows on a new machine. Once everybody has run, the swarm looks the same
forever.

Result: `steady_without_mutation`.
-/

namespace TapeSwarm

/-! ## One tape, run again and again -/

namespace Entity

/-- What is seen of an entity, and measured in statistics. -/
def appearance (e : Entity) : Snapshot × Traits × Option (Genotype Float) × Nat :=
  (e.lastSnapshot, e.traits, e.genotype, e.complexity)

/-- An entity with a tape that nobody changes, after a number of updates under settings that stay
the same. -/
structure Undisturbed (kind : Kind) (settings : Settings) (tape : Tape) (count : Nat) (e : Entity) :
    Prop where
  sameKind : e.kind = kind
  sameTape : e.tape = tape
  obeys : e.Obeys none none settings
  counted : e.updates = count
  coherent : e.Coherent (patternSizeFor settings)
    (if interval kind settings ≤ count then some (usualTrial kind settings tape) else none)

variable {kind : Kind} {settings : Settings} {tape : Tape} {count more : Nat} {e later : Entity}

theorem undisturbed_new (tape : Tape) (kind : Kind) (settings : Settings) :
    Undisturbed kind settings tape 0 (new tape kind none none settings) where
  sameKind := rfl
  sameTape := rfl
  obeys := obeys_new tape kind none none settings
  counted := rfl
  coherent := by
    rw [if_neg (Nat.not_le.mpr (one_le_interval kind settings))]
    exact coherent_new tape kind none none settings

/-- The first run comes when the interval is over, and those after it are no different. -/
theorem Undisturbed.advance (undisturbed : Undisturbed kind settings tape count e) :
    Undisturbed kind settings tape (count + 1) (Swarm.advanceEntity settings e) := by
  obtain ⟨rfl, rfl, obeys, rfl, coherent⟩ := undisturbed
  have stays := Swarm.stays_advanceEntity settings e
  refine ⟨stays.1.kind_eq, stays.2, (obeys.configure settings).update,
    Swarm.updates_advanceEntity settings e, ?_⟩
  have advanced := coherent.after [.configure settings, .update]
  rw [trials_advance obeys] at advanced
  have positive := one_le_interval e.kind settings
  rcases Nat.lt_trichotomy (e.updates + 1) (interval e.kind settings) with early | first | again
  · have idle : (e.updates + 1) % interval e.kind settings ≠ 0 := by
      rw [Nat.mod_eq_of_lt early]
      exact Nat.succ_ne_zero _
    have unrun : ¬interval e.kind settings ≤ e.updates := by omega
    rw [if_neg idle, if_neg unrun] at advanced
    rw [if_neg (Nat.not_le.mpr early)]
    exact advanced
  · have due : (e.updates + 1) % interval e.kind settings = 0 := by
      rw [first, Nat.mod_self]
    rw [if_pos due] at advanced
    rw [if_pos (Nat.le_of_eq first.symm)]
    exact advanced
  · have ran : interval e.kind settings ≤ e.updates := Nat.lt_succ_iff.mp again
    rw [if_pos ran] at advanced
    rw [if_pos (Nat.le_of_lt again)]
    -- a run has the same trial as the one before it
    split at advanced
    · exact advanced
    · exact advanced

theorem Undisturbed.iterate (undisturbed : Undisturbed kind settings tape count e) (n : Nat) :
    Undisturbed kind settings tape (count + n) ((Swarm.advanceEntity settings)^[n] e) := by
  induction n with
  | zero => exact undisturbed
  | succ n ih =>
    rw [Function.iterate_succ_apply']
    exact ih.advance

/-- Whoever has run shows what the tape shows on a new machine. -/
theorem Undisturbed.shown (undisturbed : Undisturbed kind settings tape count e)
    (ran : interval kind settings ≤ count) :
    (usualTrial kind settings tape).outcome = .ok e.lastSnapshot := by
  have coherent := undisturbed.coherent
  rw [if_pos ran] at coherent
  exact coherent.snapshot _ rfl

theorem interval_le_of_max_le
    (reached : max (intervalFor .organism none settings) (intervalFor .food none settings) ≤ count)
    (kind : Kind) : interval kind settings ≤ count := by
  rw [Int.max_le] at reached
  rw [← Int.ofNat_le, natCast_interval]
  cases kind with
  | organism => exact reached.1
  | food => exact reached.2

/-- How often an entity has run cannot be seen, except whether it has. -/
theorem Undisturbed.appearance_eq (before : Undisturbed kind settings tape count e)
    (after : Undisturbed kind settings tape more later) (ran : interval kind settings ≤ count)
    (ranLater : interval kind settings ≤ more) : later.appearance = e.appearance := by
  have lastSnapshot : later.lastSnapshot = e.lastSnapshot :=
    Except.ok.inj ((after.shown ranLater).symm.trans (before.shown ran))
  obtain ⟨rfl, rfl, _, _, coherent⟩ := before
  obtain ⟨sameKind, sameTape, _, _, coherentLater⟩ := after
  rw [if_pos ran] at coherent
  rw [if_pos ranLater] at coherentLater
  have traits : later.traits = e.traits := by
    rw [coherentLater.traits, coherent.traits, sameKind, lastSnapshot]
  have genotype : later.genotype = e.genotype := by
    rw [coherentLater.genotype, coherent.genotype, sameKind, sameTape]
  have complexity : later.complexity = e.complexity := by
    rw [coherentLater.complexity, coherent.complexity, sameTape]
  unfold appearance
  rw [lastSnapshot, traits, genotype, complexity]

end Entity

namespace Swarm

open Entity

variable {σ : Type} [RandomSource σ]

/-! ## Steps without mutation -/

theorem stepWith_of_frozen {swarm : Swarm σ} {settings : Settings}
    (frozen : (swarm.rateUnder settings).isAtMostZero = true) :
    swarm.stepWith settings =
      ({ swarm with
          mutationRate := swarm.rateUnder settings
          tick := swarm.tick + 1
          organisms := swarm.organisms.map (advanceEntity settings)
          food := swarm.food.map (advanceEntity settings) }, .ok ()) := by
  have still : ((swarm.rateUnder settings).isAtMostZero ||
      (swarm.organisms.map (advanceEntity settings)).isEmpty) = true := by
    rw [frozen]
    rfl
  exact if_pos still

/-- Steps without mutation do nothing but update everybody, and none fails. -/
theorem stepTimes_of_frozen {swarm : Swarm σ} {settings : Settings}
    (frozen : (swarm.rateUnder settings).isAtMostZero = true) (n : Nat) :
    ∃ later, stepTimes n swarm settings = (later, .ok ()) ∧
      later.tick = swarm.tick + n ∧ later.source = swarm.source ∧
      later.organisms = swarm.organisms.map (advanceEntity settings)^[n] ∧
      later.food = swarm.food.map (advanceEntity settings)^[n] := by
  induction n generalizing swarm with
  | zero => exact ⟨swarm, rfl, rfl, rfl, (List.map_id _).symm, (List.map_id _).symm⟩
  | succ n ih =>
    have stepped := stepWith_of_frozen frozen
    have rate : (swarm.stepWith settings).1.rateUnder = swarm.rateUnder :=
      rateUnder_respond swarm (.step (.ok settings : Except Unit Settings))
    have frozenNext : ((swarm.stepWith settings).1.rateUnder settings).isAtMostZero = true := by
      rwa [rate]
    obtain ⟨later, ticked, tick, source, organisms, food⟩ := ih frozenNext
    rw [stepped] at ticked tick source organisms food
    refine ⟨later, (stepTimes_succ n stepped).trans ticked, ?_, source, ?_, ?_⟩
    · exact tick.trans (Nat.succ_add_eq_add_succ _ _)
    · rw [organisms, List.map_map, ← Function.iterate_succ]
    · rw [food, List.map_map, ← Function.iterate_succ]

omit [RandomSource σ] in
theorem map_of_appearance {α : Type} {list other : List Entity}
    (same : list.map appearance = other.map appearance)
    (f : Snapshot × Traits × Option (Genotype Float) × Nat → α) :
    list.map (fun e => f e.appearance) = other.map fun e => f e.appearance := by
  have mapped := congrArg (List.map f) same
  rwa [List.map_map, List.map_map] at mapped

omit [RandomSource σ] in
/-- Statistics are taken of the tick and of what is seen. -/
theorem stats_of_appearance {swarm other : Swarm σ}
    (organisms : swarm.organisms.map appearance = other.organisms.map appearance)
    (food : swarm.food.map appearance = other.food.map appearance) :
    { swarm.stats with tick := other.tick } = other.stats := by
  have everybody : swarm.entities.map appearance = other.entities.map appearance := by
    unfold entities
    rw [List.map_append, List.map_append, organisms, food]
  have organismCount : swarm.organisms.length = other.organisms.length := by
    rw [← List.length_map appearance, organisms, List.length_map]
  have foodCount : swarm.food.length = other.food.length := by
    rw [← List.length_map appearance, food, List.length_map]
  have operations : swarm.organisms.map (·.lastSnapshot.operations) =
      other.organisms.map (·.lastSnapshot.operations) :=
    map_of_appearance organisms fun seen => seen.1.operations
  have complexities : swarm.organisms.map (fun e => (e.complexity : Int)) =
      other.organisms.map fun e => (e.complexity : Int) :=
    map_of_appearance organisms fun seen => (seen.2.2.2 : Int)
  have outputs : swarm.entities.map (·.lastSnapshot.output.length) =
      other.entities.map (·.lastSnapshot.output.length) :=
    map_of_appearance everybody fun seen => seen.1.output.length
  have total (list : List Entity) :
      list.foldr (fun e total => e.lastSnapshot.output.length + total) 0 =
        (list.map (·.lastSnapshot.output.length)).foldr (· + ·) 0 :=
    List.foldr_map.symm
  unfold stats
  dsimp only
  rw [organismCount, foodCount, operations, complexities, total, outputs, ← total]

/-! ## The steady state -/

/-- Whoever is in a new swarm is undisturbed by steps without mutation. -/
theorem undisturbed_of_founder {founding : Founding} {settings : Settings} {source : σ} {e : Entity}
    (member : e ∈ (populate founding settings source).entities) :
    ∃ kind, ∀ n, Undisturbed kind settings e.tape n ((advanceEntity settings)^[n] e) := by
  obtain ⟨place, there⟩ := mem_entities_iff.mp member
  obtain ⟨tape, kind, rfl⟩ := new_of_founder there
  refine ⟨kind, fun n => ?_⟩
  have undisturbed := (undisturbed_new tape kind settings).iterate n
  rw [Nat.zero_add] at undisturbed
  exact undisturbed

/-- A swarm that does not mutate and is only stepped, under settings that stay the same. No step
fails, no tape changes, and nothing is drawn. Once the tick has reached both intervals, everybody
shows what their tape shows on a new machine, no further step changes how anybody looks, and of the
statistics only the tick goes on. -/
theorem steady_without_mutation {room : Nat} {founding : Founding} {settings : Settings}
    {source : σ} {first : Swarm σ} (founded : found room founding settings source = .ok first)
    (frozen : (founding.rateUnder settings).isAtMostZero = true) (n m : Nat) :
    ∃ now later,
      stepTimes n first settings = (now, .ok ()) ∧ stepTimes m now settings = (later, .ok ()) ∧
      now.tick = n ∧ now.source = first.source ∧
      now.organisms.map Entity.tape = first.organisms.map Entity.tape ∧
      now.food.map Entity.tape = first.food.map Entity.tape ∧
      (max (intervalFor .organism none settings) (intervalFor .food none settings) ≤ now.tick →
        (∀ e ∈ now.entities, (usualTrial e.kind settings e.tape).outcome = .ok e.lastSnapshot) ∧
        later.organisms.map appearance = now.organisms.map appearance ∧
        later.food.map appearance = now.food.map appearance ∧
        { later.stats with tick := now.tick } = now.stats) := by
  obtain rfl := eq_populate_of_found founded
  let first := populate founding settings source
  have rate : (first.rateUnder settings).isAtMostZero = true := by
    rwa [rateUnder_populate]
  obtain ⟨now, ticked, tick, drawn, organisms, food⟩ := stepTimes_of_frozen rate n
  obtain ⟨later, tickedLater, -, -, organismsLater, foodLater⟩ := stepTimes_of_frozen rate (n + m)
  rw [stepTimes_add m ticked] at tickedLater
  rw [show first.tick = 0 from rfl, Nat.zero_add] at tick
  have tape (e : Entity) (member : e ∈ first.entities) :
      ((advanceEntity settings)^[n] e).tape = e.tape := by
    obtain ⟨kind, undisturbed⟩ := undisturbed_of_founder member
    exact (undisturbed n).sameTape
  refine ⟨now, later, ticked, tickedLater, tick, drawn, ?_, ?_, fun reached => ?_⟩
  · rw [organisms, List.map_map]
    exact List.map_congr_left fun e member => tape e (List.mem_append_left _ member)
  · rw [food, List.map_map]
    exact List.map_congr_left fun e member => tape e (List.mem_append_right _ member)
  rw [tick] at reached
  have ran := interval_le_of_max_le reached
  have alike (e : Entity) (member : e ∈ first.entities) :
      ((advanceEntity settings)^[n + m] e).appearance =
        ((advanceEntity settings)^[n] e).appearance := by
    obtain ⟨kind, undisturbed⟩ := undisturbed_of_founder member
    exact (undisturbed n).appearance_eq (undisturbed (n + m)) (ran kind)
      (Nat.le_add_right_of_le (ran kind))
  have sameOrganisms : later.organisms.map appearance = now.organisms.map appearance := by
    rw [organismsLater, organisms, List.map_map, List.map_map]
    exact List.map_congr_left fun e member => alike e (List.mem_append_left _ member)
  have sameFood : later.food.map appearance = now.food.map appearance := by
    rw [foodLater, food, List.map_map, List.map_map]
    exact List.map_congr_left fun e member => alike e (List.mem_append_right _ member)
  refine ⟨fun e member => ?_, sameOrganisms, sameFood, stats_of_appearance sameOrganisms sameFood⟩
  rw [entities, organisms, food, ← List.map_append] at member
  obtain ⟨founder, joined, rfl⟩ := List.mem_map.mp member
  obtain ⟨kind, undisturbed⟩ := undisturbed_of_founder joined
  rw [(undisturbed n).sameKind, (undisturbed n).sameTape]
  exact (undisturbed n).shown (ran kind)

/-- Settings under which organisms run in every second step, and food in every third. -/
def leisurely : Settings where
  organism := { runEvery := some 2 }
  food := { runEvery := some 3 }

theorem steady_without_mutation_leisurely :
    let founding : Founding :=
      { organisms := some 1, food := some 1, mutationRate := some (.double 0) }
    let first := populate founding leisurely (Scripted.ofLists [] [])
    found 128 founding leisurely (Scripted.ofLists [] []) = .ok first ∧
      (founding.rateUnder leisurely).isAtMostZero = true ∧
      ∃ now later,
        stepTimes 3 first leisurely = (now, .ok ()) ∧ stepTimes 5 now leisurely = (later, .ok ()) ∧
        now.tick = 3 ∧ later.organisms.map appearance = now.organisms.map appearance ∧
        later.food.map appearance = now.food.map appearance ∧
        { later.stats with tick := 3 } = now.stats := by
  intro founding first
  have founded : found 128 founding leisurely (Scripted.ofLists [] []) = .ok first := rfl
  have frozen : (founding.rateUnder leisurely).isAtMostZero = true := by decide +kernel
  obtain ⟨now, later, ticked, tickedLater, tick, -, -, -, steady⟩ :=
    steady_without_mutation founded frozen 3 5
  have reached : max (intervalFor .organism none leisurely) (intervalFor .food none leisurely) ≤
      (now.tick : Int) := by
    rw [tick]
    decide
  obtain ⟨-, organisms, food, stats⟩ := steady reached
  rw [tick] at stats
  exact ⟨founded, frozen, now, later, ticked, tickedLater, tick, organisms, food, stats⟩

end Swarm

end TapeSwarm
