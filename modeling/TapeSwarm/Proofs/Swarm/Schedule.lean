import TapeSwarm.Proofs.Entity.Settings
import TapeSwarm.Proofs.Swarm.Heredity
import TapeSwarm.Proofs.Swarm.Places
import TapeSwarm.Proofs.Swarm.Ticks

/-!
# When tapes run

Under settings that do not change, an entity runs its tape in every `n`th step since it joined the
swarm, `n` being its interval, and so its runs can be told from the ticks alone. What is run is the
tape that the entity carries when the step starts: a mutation comes after the updates of its step.

`starts` and `runs` record a history as it is seen from one place, with a tick and a tape for every
step, and a tick and a trial for every run. `OnSchedule` relates the two records to the tick at
which the entity joined; a request extends them by what it adds (`OnSchedule.respond`), and whoever
joins begins with empty ones.

Result: `runs_on_schedule`.
-/

namespace TapeSwarm

/-! ## Trials of one update -/

namespace Entity

theorem trials_append (e : Entity) (earlier later : List Request) :
    e.trials (earlier ++ later) = e.trials earlier ++ (e.after earlier).trials later := by
  induction earlier generalizing e with
  | nil => rfl
  | cons request rest ih =>
    show (e.trialOf? request).toList ++ (e.respond request).trials (rest ++ later) =
      (e.trialOf? request).toList ++ (e.respond request).trials rest ++ _
    rw [ih, List.append_assoc]
    rfl

/-- The number of updates from one run to the next where nothing was given. -/
def interval (kind : Kind) (settings : Settings) : Nat :=
  (intervalFor kind none settings).toNat

/-- What a tape is run with where nothing was given. -/
def usualTrial (kind : Kind) (settings : Settings) (tape : Tape) : Trial :=
  ⟨tape, stepsFor kind none settings, patternSizeFor settings⟩

theorem natCast_interval (kind : Kind) (settings : Settings) :
    (interval kind settings : Int) = intervalFor kind none settings :=
  Int.toNat_of_nonneg (Int.le_trans (by decide) (Int.le_max_left 1 _))

theorem one_le_interval (kind : Kind) (settings : Settings) : 1 ≤ interval kind settings := by
  have positive : 1 ≤ intervalFor kind none settings := Int.le_max_left 1 _
  rw [← natCast_interval] at positive
  exact Int.ofNat_le.mp positive

/-- An update under settings runs the tape if it is, in number, a multiple of the interval. -/
theorem trials_advance {e : Entity} {table : Settings} (obeys : e.Obeys none none table)
    (settings : Settings) :
    e.trials [.configure settings, .update] =
      if (e.updates + 1) % interval e.kind settings = 0 then [usualTrial e.kind settings e.tape]
      else [] := by
  obtain ⟨_, _, every, steps, pattern⟩ := obeys.configure settings
  have kind : (e.configure settings).kind = e.kind := rfl
  rw [kind] at every steps
  replace every : (e.configure settings).runEvery = interval e.kind settings :=
    every.trans (natCast_interval e.kind settings).symm
  have trial : (e.configure settings).trial = usualTrial e.kind settings e.tape := by
    unfold Entity.trial usualTrial
    rw [steps, pattern]
    rfl
  have due : ((e.configure settings).counted.updates : Int) % (e.configure settings).runEvery = 0 ↔
      (e.updates + 1) % interval e.kind settings = 0 := by
    rw [every]
    exact Int.natCast_eq_zero (n := (e.updates + 1) % interval e.kind settings)
  show (if (e.configure settings).update.2 then some (e.configure settings).trial else none).toList
    ++ [] = _
  rw [trial, List.append_nil]
  rcases update_cases (e.configure settings) with ⟨multiple, ran⟩ | ⟨other, passed⟩
  · rw [ran, if_pos (due.mp multiple)]
    rfl
  · rw [passed, if_neg fun multiple => other (due.mpr multiple)]
    rfl

end Entity

namespace Swarm

open Entity

variable {σ ε : Type} [RandomSource σ]

/-! ## A history seen from one place -/

/-- The start of a step: its tick, and the tape of who is at a place then. -/
def startIn (swarm : Swarm σ) (place : Place) : Request ε → List (Nat × Tape)
  | .step (.ok _) => ((swarm.member? place).map fun e => (swarm.tick + 1, e.tape)).toList
  | .step (.error _) | .replicate .. => []

/-- The starts of all steps in a history since somebody was at a place. -/
def starts (swarm : Swarm σ) (place : Place) : List (Request ε) → List (Nat × Tape)
  | [] => []
  | request :: rest => swarm.startIn place request ++ (swarm.respond request).starts place rest

/-- What a step runs at a place, with the tick. -/
def runIn (swarm : Swarm σ) (place : Place) : Request ε → List (Nat × Trial)
  | .step (.ok settings) =>
    match swarm.member? place with
    | none => []
    | some e => (e.trials [.configure settings, .update]).map (swarm.tick + 1, ·)
  | .step (.error _) | .replicate .. => []

/-- What the steps of a history run at a place. -/
def runs (swarm : Swarm σ) (place : Place) : List (Request ε) → List (Nat × Trial)
  | [] => []
  | request :: rest => swarm.runIn place request ++ (swarm.respond request).runs place rest

/-- The tick at which a place is first taken. -/
def joined? (swarm : Swarm σ) (place : Place) : List (Request ε) → Option Nat
  | [] => (swarm.member? place).map fun _ => swarm.tick
  | request :: rest =>
    if (swarm.member? place).isSome then some swarm.tick
    else (swarm.respond request).joined? place rest

/-- The runs that are due when the steps of some starts are taken. -/
def dueRuns (kind : Kind) (settings : Settings) (joined : Nat) (starts : List (Nat × Tape)) :
    List (Nat × Trial) :=
  (starts.filter fun start => (start.1 - joined) % interval kind settings = 0).map fun start =>
    (start.1, usualTrial kind settings start.2)

/-- One in `n` of any number of ticks in a row is due. -/
theorem length_dueRuns {kind : Kind} {settings : Settings} {joined count : Nat}
    {starts : List (Nat × Tape)} (ticks : starts.map Prod.fst = List.range' (joined + 1) count) :
    (dueRuns kind settings joined starts).length = count / interval kind settings := by
  have multiples : (List.range' (joined + 1) count).countP
      (fun tick => (tick - joined) % interval kind settings = 0) =
      count / interval kind settings := by
    clear ticks
    induction count with
    | zero => exact (Nat.zero_div _).symm
    | succ count ih =>
      have last : joined + 1 + 1 * count - joined = count + 1 := by omega
      rw [List.range'_concat, List.countP_append, ih, List.countP_singleton, last, Nat.succ_div]
      simp only [Nat.dvd_iff_mod_eq_zero, decide_eq_true_eq]
  rw [← multiples, ← ticks, List.countP_map]
  unfold dueRuns
  rw [List.length_map, List.countP_eq_length_filter]
  rfl

/-! ## On schedule -/

/-- What an entity has been through since it joined at a tick, if it goes by its schedule. -/
structure OnSchedule (kind : Kind) (settings : Settings) (joined tick : Nat)
    (starts : List (Nat × Tape)) (runs : List (Nat × Trial)) (e : Entity) : Prop where
  sameKind : e.kind = kind
  obeys : e.Obeys none none settings
  count : joined + e.updates = tick
  ticks : starts.map Prod.fst = List.range' (joined + 1) e.updates
  due : runs = dueRuns kind settings joined starts
  life : ∃ tape history, (new tape kind none none settings).after history = e ∧
    (new tape kind none none settings).trials history = runs.map Prod.snd

theorem onSchedule_new (tape : Tape) (kind : Kind) (settings : Settings) (tick : Nat) :
    OnSchedule kind settings tick tick [] [] (new tape kind none none settings) where
  sameKind := rfl
  obeys := obeys_new tape kind none none settings
  count := rfl
  ticks := rfl
  due := rfl
  life := ⟨tape, [], rfl, rfl⟩

variable {kind : Kind} {settings : Settings} {joined tick : Nat} {starts : List (Nat × Tape)}
  {runs : List (Nat × Trial)} {e : Entity}

/-- A step of the swarm, up to the mutations at its end. -/
theorem OnSchedule.advance (onSchedule : OnSchedule kind settings joined tick starts runs e) :
    OnSchedule kind settings joined (tick + 1) (starts ++ [(tick + 1, e.tape)])
      (runs ++ (e.trials [.configure settings, .update]).map (tick + 1, ·))
      (advanceEntity settings e) := by
  obtain ⟨rfl, obeys, rfl, ticks, rfl, tape, history, life, trials⟩ := onSchedule
  have updates := updates_advanceEntity settings e
  refine ⟨(stays_advanceEntity settings e).1.kind_eq, (obeys.configure settings).update, ?_, ?_, ?_,
    tape, history ++ [.configure settings, .update], ?_, ?_⟩
  · rw [updates]
    rfl
  · rw [updates, List.map_append, ticks, List.range'_concat, Nat.one_mul, Nat.add_right_comm]
    rfl
  · have elapsed : joined + e.updates + 1 - joined = e.updates + 1 := by omega
    rw [trials_advance obeys, dueRuns, dueRuns, List.filter_append, List.map_append]
    congr 1
    simp only [List.filter_singleton, elapsed]
    by_cases due : (e.updates + 1) % interval e.kind settings = 0
    · rw [if_pos due, decide_eq_true due]
      rfl
    · rw [if_neg due, decide_eq_false due]
      rfl
  · rw [after_append, life]
    rfl
  · rw [trials_append, life, trials, List.map_append, List.map_map]
    exact congrArg _ (List.map_id _).symm

/-- A mutation comes with no run. -/
theorem OnSchedule.setTape (onSchedule : OnSchedule kind settings joined tick starts runs e)
    (tape : Tape) : OnSchedule kind settings joined tick starts runs (e.setTape tape) := by
  obtain ⟨sameKind, obeys, count, ticks, due, first, history, life, trials⟩ := onSchedule
  refine ⟨sameKind, obeys.setTape tape, count, ticks, due, first,
    history ++ [.assign (.bytes tape)], ?_, ?_⟩
  · rw [after_append, life]
    rfl
  · rw [trials_append, trials]
    exact List.append_nil _

theorem OnSchedule.respond {swarm : Swarm σ} {place : Place} {later : Entity} (call : Call)
    (room : Nat) (there : swarm.member? place = some e)
    (onSchedule : OnSchedule kind settings joined swarm.tick starts runs e)
    (meets : (call.under ⟨settings, room⟩).Meets e later) :
    OnSchedule kind settings joined (swarm.respond (call.under ⟨settings, room⟩)).tick
      (starts ++ swarm.startIn place (call.under ⟨settings, room⟩))
      (runs ++ swarm.runIn place (call.under ⟨settings, room⟩)) later := by
  rw [(respond_cases swarm (call.under ⟨settings, room⟩)).1]
  cases call with
  | step =>
    have advanced := onSchedule.advance
    unfold Call.under startIn runIn
    rw [there]
    rcases (show Mutates (advanceEntity settings e) later from meets) with rfl | ⟨tape, _, rfl⟩
    · exact advanced
    · exact advanced.setTape tape
  | replicate parent =>
    obtain rfl : later = e := meets
    unfold Call.under startIn runIn
    rw [List.append_nil, List.append_nil]
    exact onSchedule

theorem OnSchedule.after {swarm : Swarm σ} {place : Place}
    (there : swarm.member? place = some e)
    (onSchedule : OnSchedule kind settings joined swarm.tick starts runs e)
    (calls : List (Call × Nat)) :
    let history := calls.map fun (call, room) => call.under ⟨settings, room⟩
    ∃ later, (swarm.after history).member? place = some later ∧
      OnSchedule kind settings joined (swarm.after history).tick
        (starts ++ swarm.starts place history) (runs ++ swarm.runs place history) later := by
  induction calls generalizing swarm e starts runs with
  | nil =>
    refine ⟨e, there, ?_⟩
    show OnSchedule kind settings joined swarm.tick (starts ++ []) (runs ++ []) e
    rw [List.append_nil, List.append_nil]
    exact onSchedule
  | cons told rest ih =>
    intro history
    obtain ⟨call, room⟩ := told
    obtain ⟨next, found, meets⟩ := member?_respond there (call.under ⟨settings, room⟩)
    obtain ⟨later, foundLater, kept⟩ := ih found (onSchedule.respond call room there meets)
    rw [List.append_assoc, List.append_assoc] at kept
    exact ⟨later, foundLater, kept⟩

/-- An entity shows what its last run shows on a new machine, and nothing before its first run. -/
theorem OnSchedule.shown (onSchedule : OnSchedule kind settings joined tick starts runs e) :
    (runs = [] → e.lastSnapshot = Snapshot.empty (patternSizeFor settings)) ∧
      ∀ run, runs.getLast? = some run → run.2.outcome = .ok e.lastSnapshot := by
  obtain ⟨tape, history, life, trials⟩ := onSchedule.life
  have coherent := (coherent_new tape kind none none settings).after history
  rw [life, trials, Option.or_none, List.getLast?_map] at coherent
  refine ⟨fun none => coherent.unrun ?_, fun run last => coherent.snapshot run.2 ?_⟩
  · rw [none]
    rfl
  · rw [last]
    rfl

theorem OnSchedule.lastSnapshot_eq {other : Nat} {otherStarts : List (Nat × Tape)} {later : Entity}
    (before : OnSchedule kind settings joined tick starts runs e)
    (after : OnSchedule kind settings joined other otherStarts runs later) :
    later.lastSnapshot = e.lastSnapshot := by
  cases last : runs.getLast? with
  | none =>
    have unrun := List.getLast?_eq_none_iff.mp last
    rw [before.shown.1 unrun, after.shown.1 unrun]
  | some run =>
    have same := (after.shown.2 run last).symm.trans (before.shown.2 run last)
    exact Except.ok.inj same

/-- What a step runs depends on the tape that it finds. -/
theorem OnSchedule.step {swarm : Swarm σ} {place : Place}
    (there : swarm.member? place = some e)
    (onSchedule : OnSchedule kind settings joined swarm.tick starts runs e) :
    ∃ later, (swarm.respond (.step (.ok settings) : Request Empty)).member? place = some later ∧
      ((swarm.tick + 1 - joined) % interval kind settings = 0 →
        (usualTrial kind settings e.tape).outcome = .ok later.lastSnapshot) ∧
      ((swarm.tick + 1 - joined) % interval kind settings ≠ 0 →
        later.lastSnapshot = e.lastSnapshot) := by
  let request : Request Empty := .step (.ok settings)
  obtain ⟨later, found, meets⟩ := member?_respond there request
  have kept := onSchedule.respond .step 0 there meets
  have elapsed : swarm.tick + 1 - joined = e.updates + 1 := by
    have count := onSchedule.count
    omega
  have ran : swarm.runIn place (Call.step.under ⟨settings, 0⟩) =
      (e.trials [.configure settings, .update]).map (swarm.tick + 1, ·) := by
    unfold Call.under runIn
    rw [there]
  rw [trials_advance onSchedule.obeys, onSchedule.sameKind] at ran
  rw [elapsed]
  refine ⟨later, found, fun due => ?_, fun other => ?_⟩
  · rw [ran, if_pos due] at kept
    exact kept.shown.2 _ List.getLast?_concat
  · rw [ran, if_neg other, List.map_nil, List.append_nil] at kept
    exact onSchedule.lastSnapshot_eq kept

/-! ## Joining -/

theorem joined?_of_taken {swarm : Swarm σ} {place : Place} {e : Entity}
    (there : swarm.member? place = some e) (history : List (Request ε)) :
    swarm.joined? place history = some swarm.tick := by
  cases history with
  | nil =>
    unfold joined?
    rw [there]
    rfl
  | cons request rest =>
    unfold joined?
    rw [there]
    rfl

omit [RandomSource σ] in
/-- Nothing is recorded at a free place. -/
theorem record_of_free {swarm : Swarm σ} {place : Place} (free : swarm.member? place = none)
    (request : Request ε) : swarm.startIn place request = [] ∧ swarm.runIn place request = [] := by
  rcases request with (_ | settings) | _
  · exact ⟨rfl, rfl⟩
  · unfold startIn runIn
    rw [free]
    exact ⟨rfl, rfl⟩
  · exact ⟨rfl, rfl⟩

/-- The records of a place begin when somebody comes to it. -/
theorem records_of_free {swarm : Swarm σ} {place : Place} (free : swarm.member? place = none)
    (request : Request ε) (rest : List (Request ε)) :
    swarm.starts place (request :: rest) = (swarm.respond request).starts place rest ∧
      swarm.runs place (request :: rest) = (swarm.respond request).runs place rest ∧
      swarm.joined? place (request :: rest) = (swarm.respond request).joined? place rest := by
  obtain ⟨noStart, noRun⟩ := record_of_free free request
  refine ⟨?_, ?_, ?_⟩
  · rw [starts, noStart, List.nil_append]
  · rw [runs, noRun, List.nil_append]
  · rw [joined?, free]
    rfl

/-- A call that fills a free place adds an entity that was made under the settings of the call. -/
theorem new_of_call {swarm : Swarm σ} {place : Place} {call : Call} {room : Nat}
    (free : swarm.member? place = none)
    (there : (swarm.respond (call.under ⟨settings, room⟩)).member? place = some e) :
    ∃ tape, e = new tape .organism none none settings := by
  obtain ⟨parent, left, used, tape, same, rfl⟩ := new_of_free free there
  cases call with
  | step => contradiction
  | replicate other =>
    obtain ⟨-, -, reading⟩ := Request.replicate.inj same
    obtain rfl : settings = used := Except.ok.inj reading
    exact ⟨tape, rfl⟩

theorem exists_onSchedule {swarm : Swarm σ} {place : Place} (free : swarm.member? place = none)
    (calls : List (Call × Nat)) {e : Entity}
    (there : (swarm.after (calls.map fun (call, room) =>
      call.under ⟨settings, room⟩)).member? place = some e) :
    let history := calls.map fun (call, room) => call.under ⟨settings, room⟩
    ∃ joined, swarm.joined? place history = some joined ∧
      OnSchedule e.kind settings joined (swarm.after history).tick (swarm.starts place history)
        (swarm.runs place history) e := by
  induction calls generalizing swarm with
  | nil =>
    rw [show swarm.member? place = some e from there] at free
    contradiction
  | cons told rest ih =>
    intro history
    obtain ⟨call, room⟩ := told
    obtain ⟨starts, runs, joined⟩ := records_of_free free (call.under ⟨settings, room⟩)
      (rest.map fun (call, room) => call.under ⟨settings, room⟩)
    rw [show history = _ from List.map_cons, starts, runs, joined]
    cases next : (swarm.respond (call.under ⟨settings, room⟩)).member? place with
    | none => exact ih next there
    | some child =>
      obtain ⟨tape, rfl⟩ := new_of_call free next
      refine ⟨_, joined?_of_taken next _, ?_⟩
      obtain ⟨later, found, kept⟩ :=
        (onSchedule_new tape .organism settings _).after next rest
      obtain rfl : later = e := Option.some.inj (found.symm.trans there)
      rw [kept.sameKind]
      exact kept

/-! ## The schedule -/

/-- After any calls to a founded swarm, under settings that stay the same and with whatever room
each finds, whoever is at a place joined at some tick, at the first one if it was there from the
start, and has counted the ticks since. Every step since then has found it with a tape; the steps
whose distance from that tick is a multiple of the interval have run this tape, and the others have
run nothing. So there was one run for every full interval. The entity shows what the last of these
runs shows on a new machine. The next step runs, if it is due, the tape that it finds, whatever tape
it leaves. -/
theorem runs_on_schedule {room : Nat} {founding : Founding} {settings : Settings} {source : σ}
    {first : Swarm σ} (founded : found room founding settings source = .ok first)
    (calls : List (Call × Nat)) (place : Place) (e : Entity)
    (there : (first.after (calls.map fun (call, room) =>
      call.under ⟨settings, room⟩)).member? place = some e) :
    let history := calls.map fun (call, room) => call.under ⟨settings, room⟩
    let now := first.after history
    let every := interval e.kind settings
    ∃ joined, first.joined? place history = some joined ∧
      ((first.member? place).isSome = true → joined = 0) ∧
      joined ≤ now.tick ∧ e.updates = now.tick - joined ∧ e.runEvery = every ∧
      (first.starts place history).map Prod.fst =
        List.range' (joined + 1) (now.tick - joined) ∧
      first.runs place history =
        ((first.starts place history).filter fun start => (start.1 - joined) % every = 0).map
          (fun start => (start.1, usualTrial e.kind settings start.2)) ∧
      (first.runs place history).length = (now.tick - joined) / every ∧
      (first.runs place history = [] →
        e.lastSnapshot = Snapshot.empty (patternSizeFor settings)) ∧
      (∀ run, (first.runs place history).getLast? = some run →
        run.2.outcome = .ok e.lastSnapshot) ∧
      ∃ later, (now.respond (.step (.ok settings) : Request Empty)).member? place = some later ∧
        ((now.tick + 1 - joined) % every = 0 →
          (usualTrial e.kind settings e.tape).outcome = .ok later.lastSnapshot) ∧
        ((now.tick + 1 - joined) % every ≠ 0 → later.lastSnapshot = e.lastSnapshot) := by
  intro history now every
  obtain rfl := eq_populate_of_found founded
  let first := populate founding settings source
  obtain ⟨joined, found, start, kept⟩ : ∃ joined, first.joined? place history = some joined ∧
      ((first.member? place).isSome = true → joined = 0) ∧
      OnSchedule e.kind settings joined now.tick (first.starts place history)
        (first.runs place history) e := by
    cases taken : first.member? place with
    | none =>
      obtain ⟨joined, found, kept⟩ := exists_onSchedule taken calls there
      exact ⟨joined, found, (fun some => nomatch some), kept⟩
    | some founder =>
      obtain ⟨tape, kind, rfl⟩ := new_of_founder taken
      obtain ⟨later, found, kept⟩ := (onSchedule_new tape kind settings _).after taken calls
      obtain rfl : later = e := Option.some.inj (found.symm.trans there)
      refine ⟨0, joined?_of_taken taken _, fun _ => rfl, ?_⟩
      rw [kept.sameKind]
      exact kept
  have count : e.updates = now.tick - joined := Nat.eq_sub_of_add_eq' kept.count
  have runEvery : e.runEvery = every :=
    kept.obeys.interval.trans (natCast_interval e.kind settings).symm
  have ticks := kept.ticks
  have length : (dueRuns e.kind settings joined (first.starts place history)).length =
      e.updates / every := length_dueRuns ticks
  rw [← kept.due] at length
  rw [count] at ticks length
  exact ⟨joined, found, start, kept.count ▸ Nat.le_add_right _ _, count, runEvery, ticks, kept.due,
    length, kept.shown.1, kept.shown.2, kept.step there⟩

/-- Settings under which organisms run in every second step and always mutate. -/
def brisk : Settings where
  organism := { runEvery := some 2 }
  population := { mutationRate := some (.double 1) }

/-- A child that joins at tick 1 has its first run at tick 3. -/
theorem runs_on_schedule_child :
    let founding : Founding := { organisms := some 1, food := some 0 }
    let first := populate founding brisk (Scripted.ofLists [] [])
    let calls : List (Call × Nat) := [(.step, 0), (.replicate 0, 64), (.step, 0), (.step, 0)]
    let history := calls.map fun (call, room) => call.under ⟨brisk, room⟩
    let place := Place.organism 1
    found 64 founding brisk (Scripted.ofLists [] []) = .ok first ∧
      ∃ e, (first.after history).member? place = some e ∧ first.joined? place history = some 1 ∧
        e.updates = 2 ∧ (first.starts place history).map Prod.fst = [2, 3] ∧
        (first.runs place history).length = 1 ∧
        ∃ later, (first.after (history ++ [.step (.ok brisk)])).member? place = some later ∧
          later.lastSnapshot = e.lastSnapshot := by
  intro founding first calls history place
  have founded : found 64 founding brisk (Scripted.ofLists [] []) = .ok first := rfl
  have child : ((first.after history).member? place).map Entity.kind = some .organism := by
    decide +kernel
  obtain ⟨e, there, organism⟩ := Option.map_eq_some_iff.mp child
  have tick : (first.after history).tick = 3 := by decide +kernel
  have joinedAt : first.joined? place history = some 1 := by decide +kernel
  obtain ⟨joined, found, _, _, updates, _, ticks, _, length, _, _, later, next, _, idle⟩ :=
    runs_on_schedule founded calls place e there
  obtain rfl : joined = 1 := Option.some.inj (found.symm.trans joinedAt)
  have every : interval e.kind brisk = 2 := by
    rw [organism]
    rfl
  rw [every] at length idle
  rw [tick] at updates ticks length idle
  rw [show first.after (history ++ [_]) = _ from List.foldl_append]
  exact ⟨founded, e, there, joinedAt, updates, ticks, length, later, next, idle (by decide)⟩

end Swarm

end TapeSwarm
