import Mathlib.Order.Bounds.Basic
import Mathlib.Order.Lattice.Nat
import Std.Data.String.ToNat
import TapeSwarm.Command.Tick
import TapeSwarm.Proofs.Swarm.Founding
import TapeSwarm.Proofs.Swarm.Steady
import TapeSwarm.Random.Permuted

/-!
# The report on a swarm

The command that ticks a swarm prints as it goes and may stop early, so what it prints for a limit
begins what it prints for a higher one. `Reports` says which lines there are, by what becomes of the
swarm alone: a line for every hundredth tick up to the first inert one, which ends the report, or up
to the limit. A loop that has ticked some way without finding the swarm inert has printed the lines
so far and has the rest before it (`report_add`); from this a report has its lines
(`exists_report`).

The command ends without an outcome where numbers in the settings cannot be used for what it is
asked to make and tick (`exists_run_iff`).

Results:
1. `report_prefix_stable`: the reports for two limits, for any kind of generator and any memory.
2. `report_needs_room`: settings under which there is none.
-/

namespace TapeSwarm

namespace Swarm

variable {σ : Type} [RandomSource σ]

/-! ## Inert swarms -/

/-- There are organisms, and none of their tapes carries an instruction. -/
def Inert (swarm : Swarm σ) : Prop :=
  swarm.organisms ≠ [] ∧ ∀ e ∈ swarm.organisms, ∀ b ∈ e.tape, isInstruction b = false

/-- A swarm some ticks after it was founded. -/
def Founding.ticked (founding : Founding) (settings : Settings) (source : σ) (t : Nat) : Swarm σ :=
  (stepTimes t (populate founding settings source) settings).1

/-- The ticks after which a swarm is inert. -/
def Founding.inertTicks (founding : Founding) (settings : Settings) (source : σ) : Set Nat :=
  {t | 1 ≤ t ∧ (founding.ticked settings source t).Inert}

section

variable {founding : Founding} {settings : Settings} {source : σ}
  (mutable : (populate founding settings source).Mutable settings)

include mutable

theorem stepTimes_populate (t : Nat) :
    stepTimes t (populate founding settings source) settings =
      (founding.ticked settings source t, .ok ()) :=
  Prod.ext rfl (stepTimes_of_mutable mutable t)

theorem stepWith_ticked (t : Nat) :
    (founding.ticked settings source t).stepWith settings =
      (founding.ticked settings source (t + 1), .ok ()) := by
  have later := stepTimes_populate mutable (t + 1)
  rw [stepTimes_add 1 (stepTimes_populate mutable t), stepTimes] at later
  split at later
  · cases later
  · next stepped => exact stepped.trans later

theorem ticked_eq_after (t : Nat) :
    founding.ticked settings source t =
      (populate founding settings source).after
        (List.replicate t (.step (.ok settings : Except Unit Settings))) := by
  induction t with
  | zero => rfl
  | succ t ih =>
    rw [List.replicate_succ', show after _ (_ ++ [_]) = _ from List.foldl_append]
    show _ = (Swarm.stepWith (after _ _) settings).1
    rw [← ih, stepWith_ticked mutable]

theorem tick_ticked (t : Nat) : (founding.ticked settings source t).tick = t := by
  rw [ticked_eq_after mutable, tick_after, List.countP_replicate]
  exact Nat.zero_add t

theorem complexity_ticked (t : Nat) :
    ∀ e ∈ (founding.ticked settings source t).organisms, e.complexity = e.tape.complexity := by
  rw [ticked_eq_after mutable]
  refine forall_mem_of_forall₂ ?_ (organisms_after _ _) fun e member =>
    exists_of_mem_created member
  rintro _ e becomes ⟨tape, madeUnder, _, _, rfl⟩
  obtain ⟨_, coherent⟩ := becomes.coherent
  exact coherent.complexity

theorem isInert_ticked_iff (t : Nat) :
    (founding.ticked settings source t).isInert = true ↔
      (founding.ticked settings source t).Inert := by
  have known := complexity_ticked mutable t
  unfold isInert Inert
  rw [Bool.and_eq_true, Bool.not_eq_true', List.isEmpty_eq_false_iff, List.all_eq_true]
  refine and_congr_right fun _ => forall₂_congr fun e member => ?_
  rw [decide_eq_true_iff, known e member, Tape.complexity, List.countP_eq_zero]
  simp only [Bool.not_eq_true]

end

end Swarm

namespace Command.TickRequest

open Swarm

variable {σ : Type} [RandomSource σ]

/-! ## The lines -/

/-- The lines of the ticks up to some tick. -/
def statsLines (founding : Founding) (settings : Settings) (source : σ) (last : Nat) :
    List String :=
  ((List.range' 1 last).filter (100 ∣ ·)).map fun t =>
    let stats := (founding.ticked settings source t).stats
    "t=" ++ toString t ++ "  ops=" ++ Decimal.fixed 1 stats.meanOperations
      ++ "  complexity=" ++ Decimal.fixed 2 stats.meanComplexity
      ++ "  out=" ++ toString stats.outputBytes

/-- The lines of a report for a limit. -/
inductive Reports (founding : Founding) (settings : Settings) (source : σ) (limit : Nat) :
    List String → Prop
  | active (later : ∀ t ∈ founding.inertTicks settings source, limit < t) :
      Reports founding settings source limit (statsLines founding settings source limit)
  | stopped {t : Nat} (first : IsLeast (founding.inertTicks settings source) t)
      (reached : t ≤ limit) :
      Reports founding settings source limit
        (statsLines founding settings source t ++ ["All organism tapes inert at t=" ++ toString t])

section

variable {founding : Founding} {settings : Settings} {source : σ}

section

variable (mutable : (populate founding settings source).Mutable settings)

include mutable

theorem statsLines_succ (t : Nat) :
    statsLines founding settings source (t + 1) =
      statsLines founding settings source t ++
        if (t + 1) % reportEvery = 0 then
          [statsLine (founding.ticked settings source (t + 1)).stats]
        else [] := by
  have tick : (founding.ticked settings source (t + 1)).stats.tick = t + 1 :=
    tick_ticked mutable (t + 1)
  unfold statsLines statsLine
  rw [List.range'_1_concat, List.filter_append, List.map_append, Nat.add_comm 1 t, tick]
  congr 1
  split
  · next due =>
    have due : 100 ∣ t + 1 := Nat.dvd_of_mod_eq_zero due
    rw [List.filter_cons_of_pos (by simpa using due)]
    rfl
  · next idle =>
    have between : ¬100 ∣ t + 1 := fun due => idle (Nat.mod_eq_zero_of_dvd due)
    rw [List.filter_cons_of_neg (by simpa using between)]
    rfl

/-- The line of the next tick, and what follows it. -/
theorem report_succ (n t : Nat) :
    (report settings (n + 1) (founding.ticked settings source t)).map
        (statsLines founding settings source t ++ ·) =
      if (founding.ticked settings source (t + 1)).isInert then
        .ok (statsLines founding settings source (t + 1) ++ [inertLine (t + 1)])
      else (report settings n (founding.ticked settings source (t + 1))).map
        (statsLines founding settings source (t + 1) ++ ·) := by
  rw [report, stepWith_ticked mutable, statsLines_succ mutable]
  dsimp only
  rw [tick_ticked mutable]
  split
  · rw [List.append_assoc]
    rfl
  · cases report settings n (founding.ticked settings source (t + 1)) with
    | error fault => rfl
    | ok lines => exact congrArg Except.ok (List.append_assoc _ _ _).symm

/-- A loop that has not found the swarm inert has printed the lines so far. -/
theorem report_add (n : Nat) {t : Nat}
    (later : ∀ s ∈ founding.inertTicks settings source, t < s) :
    report settings (t + n) (populate founding settings source) =
      (report settings n (founding.ticked settings source t)).map
        (statsLines founding settings source t ++ ·) := by
  induction t generalizing n with
  | zero =>
    rw [Nat.zero_add]
    show report settings n _ = (report settings n (populate founding settings source)).map _
    cases report settings n (populate founding settings source) <;> rfl
  | succ t ih =>
    have active : (founding.ticked settings source (t + 1)).isInert = false := by
      rw [← Bool.not_eq_true, isInert_ticked_iff mutable]
      exact fun inert => Nat.lt_irrefl _ (later (t + 1) ⟨Nat.succ_pos t, inert⟩)
    have earlier := ih (n + 1) fun s inert => Nat.lt_of_succ_lt (later s inert)
    rw [Nat.succ_add_eq_add_succ, earlier, report_succ mutable, active]
    rfl

theorem exists_report_of_mutable (limit : Nat) :
    ∃ lines, report settings limit (populate founding settings source) = .ok lines ∧
      Reports founding settings source limit lines := by
  by_cases later : ∀ s ∈ founding.inertTicks settings source, limit < s
  · have printed := report_add mutable 0 later
    rw [Nat.add_zero] at printed
    rw [printed]
    refine ⟨_, congrArg Except.ok (List.append_nil _), .active later⟩
  · obtain ⟨s, inert, reached⟩ : ∃ s ∈ founding.inertTicks settings source, s ≤ limit := by
      simpa using later
    obtain ⟨first, least⟩ : ∃ first, IsLeast (founding.inertTicks settings source) first :=
      ⟨_, Nat.sInf_mem ⟨s, inert⟩, fun _ => Nat.sInf_le⟩
    obtain ⟨t, rfl⟩ := Nat.exists_eq_add_one.mpr least.1.1
    have soon : t + 1 ≤ limit := (least.2 inert).trans reached
    obtain ⟨n, rfl⟩ := Nat.exists_eq_add_of_le soon
    have printed := report_add mutable (n + 1) fun s inert => least.2 inert
    rw [report_succ mutable, (isInert_ticked_iff mutable (t + 1)).mpr least.1.2,
      ← Nat.succ_add_eq_add_succ] at printed
    exact ⟨_, printed, .stopped least soon⟩

end

/-- The report for a limit has its lines, if its ticks do not fail. -/
theorem exists_report {limit : Nat}
    (mutable : 0 < limit → (populate founding settings source).Mutable settings) :
    ∃ lines, report settings limit (populate founding settings source) = .ok lines ∧
      Reports founding settings source limit lines := by
  rcases Nat.eq_zero_or_pos limit with rfl | positive
  · exact ⟨[], rfl, .active fun t inert => inert.1⟩
  · exact exists_report_of_mutable (mutable positive) limit

/-- A report whose first tick fails is none. -/
theorem mutable_of_report {limit : Nat} {swarm : Swarm σ} {lines : List String}
    (reported : report settings limit swarm = .ok lines) (positive : 0 < limit) :
    swarm.Mutable settings := by
  obtain ⟨n, rfl⟩ := Nat.exists_eq_add_one.mpr positive
  rw [report] at reported
  split at reported
  · contradiction
  · next stepped => exact (stepWith_ok_iff swarm settings).mp (congrArg Prod.snd stepped)

/-! ## Two reports -/

theorem statsLines_isPrefix {few more : Nat} (order : few ≤ more) :
    statsLines founding settings source few <+: statsLines founding settings source more := by
  obtain ⟨n, rfl⟩ := Nat.exists_eq_add_of_le order
  unfold statsLines
  rw [← List.range'_append_1, List.filter_append, List.map_append]
  exact List.prefix_append _ _

theorem head?_of_mem_statsLines {last : Nat} {line : String}
    (member : line ∈ statsLines founding settings source last) : line.toList.head? = some 't' := by
  obtain ⟨t, -, rfl⟩ := List.mem_map.mp member
  simp only [String.toList_append, List.append_assoc]
  rfl

theorem head?_inertLine (t : Nat) : (inertLine t).toList.head? = some 'A' := by
  unfold inertLine
  rw [String.toList_append]
  rfl

theorem inertLine_notMem_statsLines (t last : Nat) :
    inertLine t ∉ statsLines founding settings source last := by
  intro member
  have heads := head?_of_mem_statsLines member
  rw [head?_inertLine] at heads
  contradiction

theorem inertLine_injective {s t : Nat} (same : inertLine s = inertLine t) : s = t := by
  unfold inertLine at same
  rw [String.append_right_inj] at same
  exact Nat.repr_inj.mp same

namespace Reports

variable {limit few more : Nat} {lines less full : List String}

theorem mem_inertLine_iff (reports : Reports founding settings source limit lines) (t : Nat) :
    inertLine t ∈ lines ↔ IsLeast (founding.inertTicks settings source) t ∧ t ≤ limit := by
  cases reports with
  | active later =>
    constructor
    · intro member
      exact (inertLine_notMem_statsLines _ _ member).elim
    · rintro ⟨first, reached⟩
      exact (Nat.not_le_of_lt (later t first.1) reached).elim
  | stopped first reached =>
    constructor
    · intro member
      rcases List.mem_append.mp member with regular | last
      · exact (inertLine_notMem_statsLines _ _ regular).elim
      · obtain rfl := inertLine_injective (List.mem_singleton.mp last)
        exact ⟨first, reached⟩
    · rintro ⟨least, -⟩
      rw [least.unique first]
      exact List.mem_append_right _ (List.mem_singleton_self _)

/-- A report that ended early is that for any higher limit. -/
theorem eq_of_stopped (lessReports : Reports founding settings source few less)
    (fullReports : Reports founding settings source more full) (order : few ≤ more) {t : Nat}
    (stopped : inertLine t ∈ less) : less = full := by
  obtain ⟨least, reached⟩ := (lessReports.mem_inertLine_iff t).mp stopped
  have early {limit : Nat} {lines : List String} (reached : t ≤ limit)
      (reports : Reports founding settings source limit lines) :
      lines = statsLines founding settings source t ++ [inertLine t] := by
    cases reports with
    | active later => exact (Nat.not_le_of_lt (later t least.1) reached).elim
    | stopped first _ =>
      rw [first.unique least]
      rfl
  rw [early reached lessReports, early (reached.trans order) fullReports]

theorem isPrefix (lessReports : Reports founding settings source few less)
    (fullReports : Reports founding settings source more full) (order : few ≤ more) :
    less <+: full := by
  cases lessReports with
  | active later =>
    cases fullReports with
    | active _ => exact statsLines_isPrefix order
    | stopped first _ =>
      have beyond := later _ first.1
      exact (statsLines_isPrefix beyond.le).trans (List.prefix_append _ _)
  | @stopped t first reached =>
    have stopped : Reports founding settings source few _ := .stopped first reached
    have ended : inertLine t ∈ statsLines founding settings source t ++ [inertLine t] :=
      (stopped.mem_inertLine_iff t).mpr ⟨first, reached⟩
    rw [stopped.eq_of_stopped fullReports order ended]

end Reports

end

/-! ## Carrying out the command -/

/-- A request with a seed, in numbers. -/
def seeded (ticks : Int) (organisms food : Option Int) (seed : Nat) : TickRequest where
  ticks := .number ticks
  organisms := organisms.map .number
  food := food.map .number
  seed := some (.number seed)

/-- Whether settings have numbers that can be used in a number of bytes. Where organisms are to be
made, the part of instructions has to be a double; where anybody is, a word has to hold the pattern
size, and memory as many patterns of zeros, of eight bytes each zero, as there are to be entities;
and where organisms are to be ticked, the mutation rate must not be a positive integer that no
double holds. -/
structure Usable (room : Nat) (founding : Founding) (settings : Settings) (ticks : Int) :
    Prop where
  ratio : 0 < founding.organismCount settings → ∃ x, ratioOf settings = .double x
  pattern :
    let entities := (founding.organismCount settings).toNat + (founding.foodCount settings).toNat
    let size := Entity.patternSizeFor settings
    0 < entities → -2 ^ 63 ≤ size ∧ size < 2 ^ 63 ∧ entities * (size.toNat * 8) ≤ room
  rate : 0 < founding.organismCount settings → 0 < ticks → rateOf settings ≠ .tooLarge false

omit [RandomSource σ] in
theorem generator_seeded (seeding : Nat → σ) (seed entropy : Nat) :
    generator seeding (some (.number seed)) entropy = .ok (seeding seed) := by
  have nonnegative : ¬(seed : Int) < 0 := Int.not_lt.mpr (Int.natCast_nonneg seed)
  unfold generator seedNumber seeded?
  dsimp only
  rw [if_neg nonnegative]
  rfl

theorem mapM_count (number : Option Int) :
    (number.map Amount.number).mapM Amount.count = .ok number := by
  cases number with
  | none => rfl
  | some n => rfl

/-- The command has an outcome exactly if everybody can be made and ticked. -/
theorem run_eq_ok_iff (seeding : Nat → σ) (room : Nat) (settings : Settings) (entropy : Nat)
    (ticks : Int) (organisms food : Option Int) (seed : Nat) (outcome : Outcome) :
    (seeded ticks organisms food seed).run room seeding settings entropy = .ok outcome ↔
      Founding.check { organisms, food } room settings = .ok () ∧
        ∃ lines,
          report settings ticks.toNat (populate { organisms, food } settings (seeding seed)) =
            .ok lines ∧
          .success lines = outcome := by
  have organismsAlone : Founding.check { organisms, food } room settings = .ok () →
      Founding.check { organisms, food := some 0 } room settings = .ok () := by
    rw [founding_check_eq_ok_iff, founding_check_eq_ok_iff]
    exact And.imp id (Snapshot.checkPatterns_mono (Nat.le_add_right _ _))
  unfold run seeded
  dsimp only
  rw [generator_seeded, mapM_count, mapM_count]
  show Except.bind (Except.mapError _ _) (fun _ => Except.bind (Except.mapError _ _)
    (fun first => Except.bind (Except.mapError _ _) (fun _ => Except.ok _))) = _ ↔ _
  simp only [bind_eq_ok_iff, mapError_eq_ok_iff, Unique.exists_iff, Except.ok.injEq]
  constructor
  · rintro ⟨-, first, founded, reported⟩
    obtain ⟨checked, rfl⟩ := found_eq_ok_iff.mp founded
    exact ⟨checked, reported⟩
  · rintro ⟨checked, reported⟩
    exact ⟨organismsAlone checked, _, found_eq_ok_iff.mpr ⟨checked, rfl⟩, reported⟩

/-- Settings can be used exactly if everybody can be made and, where there are ticks, chances can be
compared with the mutation rate. -/
theorem usable_iff (room : Nat) (founding : Founding) (settings : Settings) (source : σ)
    (ticks : Int) (own : founding.mutationRate = none) :
    Usable room founding settings ticks ↔
      founding.check room settings = .ok () ∧
        (0 < ticks.toNat → (populate founding settings source).Mutable settings) := by
  rw [founding_check_eq_ok_iff, Snapshot.checkPatterns_eq_ok_iff, mutable_populate_iff _ _ _ own,
    Int.lt_toNat, Int.natCast_zero, and_assoc]
  constructor
  · rintro ⟨ratio, pattern, rate⟩
    exact ⟨ratio, pattern, fun ticked some => rate some ticked⟩
  · rintro ⟨ratio, pattern, rate⟩
    exact ⟨ratio, pattern, fun some ticked => rate ticked some⟩

theorem Usable.mono {room : Nat} {founding : Founding} {settings : Settings} {few more : Int}
    (usable : Usable room founding settings more) (order : few ≤ more) :
    Usable room founding settings few where
  ratio := usable.ratio
  pattern := usable.pattern
  rate some ticked := usable.rate some (ticked.trans_le order)

/-- With settings that can be used, the command reports. -/
theorem exists_run {room : Nat} {organisms food : Option Int} {settings : Settings} {ticks : Int}
    (usable : Usable room { organisms, food } settings ticks) (seeding : Nat → σ)
    (entropy seed : Nat) :
    ∃ lines,
      (seeded ticks organisms food seed).run room seeding settings entropy =
        .ok (.success lines) ∧
      Reports { organisms, food } settings (seeding seed) ticks.toNat lines := by
  obtain ⟨checked, mutable⟩ := (usable_iff room _ settings (seeding seed) ticks rfl).mp usable
  obtain ⟨lines, reported, reports⟩ := exists_report mutable
  exact ⟨lines, (run_eq_ok_iff ..).mpr ⟨checked, lines, reported, rfl⟩, reports⟩

/-- The command has an outcome exactly if the numbers in the settings can be used. -/
theorem exists_run_iff (seeding : Nat → σ) (room : Nat) (settings : Settings) (entropy : Nat)
    (organisms food : Option Int) (seed : Nat) (ticks : Int) :
    (∃ outcome,
      (seeded ticks organisms food seed).run room seeding settings entropy = .ok outcome) ↔
      Usable room { organisms, food } settings ticks := by
  constructor
  · rintro ⟨outcome, ran⟩
    obtain ⟨checked, lines, reported, -⟩ := (run_eq_ok_iff ..).mp ran
    exact (usable_iff _ _ _ _ _ rfl).mpr ⟨checked, mutable_of_report reported⟩
  · intro usable
    obtain ⟨lines, ran, -⟩ := exists_run usable seeding entropy seed
    exact ⟨_, ran⟩

theorem stdout_append (few rest : List String) :
    (Outcome.success (few ++ rest)).stdout =
      (Outcome.success few).stdout ++ (Outcome.success rest).stdout := by
  show String.join ((few ++ rest).map _) = _
  rw [List.map_append, String.join_append]
  rfl

/-- The command has an outcome for a limit exactly if the settings can be used. It is success then.
What it prints for a limit begins what it prints for a higher one, and is all of it once it says
that the swarm is inert. The lines are those that `Reports` says: they tell every hundredth tick,
and the first inert one if it is within the limit. -/
theorem report_prefix_stable (seeding : Nat → σ) (room : Nat) (settings : Settings)
    (entropy seed : Nat) (organisms food : Option Int) {few more : Int} (order : few ≤ more)
    (usable : Usable room { organisms, food } settings more) :
    let founding : Founding := { organisms, food }
    let source := seeding seed
    (∀ ticks, (∃ outcome,
        (seeded ticks organisms food seed).run room seeding settings entropy = .ok outcome) ↔
      Usable room founding settings ticks) ∧
    ∃ less full : Outcome,
      (seeded few organisms food seed).run room seeding settings entropy = .ok less ∧
      (seeded more organisms food seed).run room seeding settings entropy = .ok full ∧
      less.status = some 0 ∧ full.status = some 0 ∧
      less.stdout = String.join (less.lines.map (· ++ "
")) ∧
      full.stdout = String.join (full.lines.map (· ++ "
")) ∧
      (∃ rest, full.stdout = less.stdout ++ rest) ∧
      Reports founding settings source few.toNat less.lines ∧
      Reports founding settings source more.toNat full.lines ∧
      (∀ t ≤ more.toNat, (founding.ticked settings source t).stats.tick = t) ∧
      (∀ t, "All organism tapes inert at t=" ++ toString t ∈ less.lines ↔
        IsLeast (founding.inertTicks settings source) t ∧ t ≤ few.toNat) ∧
      ((∃ t : Nat, "All organism tapes inert at t=" ++ toString t ∈ less.lines) → less = full) := by
  intro founding source
  obtain ⟨less, lessRan, lessReports⟩ := exists_run (usable.mono order) seeding entropy seed
  obtain ⟨full, fullRan, fullReports⟩ := exists_run usable seeding entropy seed
  have limits : few.toNat ≤ more.toNat := Int.toNat_le_toNat order
  obtain ⟨rest, longer⟩ := lessReports.isPrefix fullReports limits
  refine ⟨exists_run_iff seeding room settings entropy organisms food seed, .success less,
    .success full, lessRan, fullRan, rfl, rfl, rfl, rfl, ?longer, lessReports, fullReports, ?ticks,
    lessReports.mem_inertLine_iff, ?same⟩
  case longer =>
    rw [← longer]
    exact ⟨_, stdout_append _ _⟩
  case ticks =>
    obtain ⟨-, mutable⟩ := (usable_iff room founding settings source more rfl).mp usable
    intro t within
    rcases Nat.eq_zero_or_pos t with rfl | positive
    · rfl
    · exact tick_ticked (mutable (positive.trans_le within)) t
  case same =>
    rintro ⟨t, stopped⟩
    exact congrArg Outcome.success (lessReports.eq_of_stopped fullReports limits stopped)

theorem report_prefix_stable_plain :
    let founding : Founding := { organisms := some 1, food := some 0 }
    let source := Permuted.ofSeed 7
    Usable 64 founding {} 250 ∧ ∃ less full : Outcome,
      (seeded (-3) (some 1) (some 0) 7).run 64 Permuted.ofSeed {} 0 = .ok less ∧
      (seeded 250 (some 1) (some 0) 7).run 64 Permuted.ofSeed {} 0 = .ok full ∧
      less.status = some 0 ∧ full.status = some 0 ∧
      (∃ rest, full.stdout = less.stdout ++ rest) ∧
      Reports founding {} source 0 less.lines ∧ Reports founding {} source 250 full.lines := by
  intro founding source
  have usable : Usable 64 founding {} 250 :=
    ⟨fun _ => ⟨_, rfl⟩, fun _ => by decide, fun _ _ => nofun⟩
  obtain ⟨-, less, full, lessRan, fullRan, ended, endedToo, -, -, longer, lessReports,
    fullReports, -⟩ := report_prefix_stable Permuted.ofSeed 64 {} 0 7 (some 1) (some 0)
      (by decide : (-3 : Int) ≤ 250) usable
  exact ⟨usable, less, full, lessRan, fullRan, ended, endedToo, longer, lessReports, fullReports⟩

/-- Settings with a pattern that is larger than anything can be. -/
def boundless : Settings where
  machine := { patternSize := some 9223372036854775808 }

/-- Whatever room there is, nobody can be made with such a pattern. -/
theorem report_needs_room :
    let request := seeded 0 (some 1) (some 0) 0
    request.run Capacity.usualRoom Permuted.ofSeed boundless 0 =
        .error (.founding (.pattern .uncountable)) ∧
      ¬∃ room lines, request.run room Permuted.ofSeed boundless 0 = .ok ⟨some 0, lines⟩ := by
  intro request
  have escaped (room : Nat) : request.run room Permuted.ofSeed boundless 0 =
      .error (.founding (.pattern .uncountable)) := by
    rfl
  refine ⟨escaped _, ?_⟩
  rintro ⟨room, lines, ran⟩
  rw [escaped] at ran
  contradiction

end Command.TickRequest

end TapeSwarm
