import TapeSwarm.Proofs.Outline.Table

/-!
# What an outline does

The meaning of a program by its structure: a block runs on a store, a loop repeats its body while
the cell is not zero, and a gate ends the program where the cell is zero. There is no code pointer
and no bracket table here.

Costs are the instructions that a machine performs: one for a byte that is no bracket; one for an
opening bracket on arrival, and none when a loop comes back to it; one for the closing bracket at
the end of each pass.

The machine with the same tape does the same. Going forward, a run of the structure leads the
machine from place to place (`Block.leads_of_runs`, by induction on the block, and within a loop on
its passes). Going back, a machine that leaves its program has run each block it entered
(`Block.runs_of_leaves`): a pass of a loop takes at least one step, so the steps that are left bound
the passes.

Result: `steps_agree_with_outline`.
-/

namespace TapeSwarm

variable {size : Nat}

/-- `While body s k t`: repeating `body` while the cell is not zero leads from `s` to `t`. A pass
costs one more than its body. -/
inductive While (body : Store size → Nat → Store size → Prop) :
    Store size → Nat → Store size → Prop
  | done {s : Store size} (zero : s.cell = 0) : While body s 0 s
  | pass {s u t : Store size} {j k : Nat} (nonzero : s.cell ≠ 0) (once : body s j u)
      (again : While body u k t) : While body s (j + 1 + k) t

/-- `block.Runs s k t`: the block leads from `s` to `t` at the cost `k`. -/
def Block.Runs : Block → Store size → Nat → Store size → Prop
  | .skip, s, k, t => k = 0 ∧ t = s
  | .act byte rest, s, k, t => ∃ j, k = j + 1 ∧ rest.Runs (s.act byte.val) j t
  | .loop body rest, s, k, t =>
    ∃ i u j, k = 1 + i + j ∧ While body.Runs s i u ∧ rest.Runs u j t

/-- `outline.Runs s k t`: the program leads from `s` to `t` at the cost `k`, and is over. -/
def Outline.Runs : Outline → Store size → Nat → Store size → Prop
  | .last block, s, k, t => block.Runs s k t
  | .gate block rest, s, k, t =>
    ∃ j u, block.Runs s j u ∧
      (u.cell = 0 ∧ k = j + 1 ∧ t = u ∨ u.cell ≠ 0 ∧ ∃ l, k = j + 1 + l ∧ rest.Runs u l t)

/-! ## Leading from place to place -/

namespace Machine

/-- The machine has a tape and a table of brackets, and stands at a position with a store. -/
structure At (tape : Tape) (table : Brackets) (i : Nat) (s : Store size) (m : Machine size) :
    Prop where
  program : m.program = tape
  brackets : m.brackets = table
  codePointer : m.codePointer = i
  store : m.store = s

/-- `Leads tape table i s k p t`: every machine at position `i` with the store `s` performs `k`
instructions in its next `k` steps, and is then at `p` with `t`. -/
def Leads (tape : Tape) (table : Brackets) (i : Nat) (s : Store size) (k p : Nat) (t : Store size) :
    Prop :=
  ∀ m : Machine size, m.At tape table i s → m.performed k = k ∧ (m.steps k).At tape table p t

variable {tape : Tape} {table : Brackets} {i p q j k : Nat} {s u t : Store size}

theorem leads_zero : Leads tape table i s 0 i s :=
  fun _ here => ⟨rfl, here⟩

theorem Leads.trans (first : Leads tape table i s j p u) (second : Leads tape table p u k q t) :
    Leads tape table i s (j + k) q t := by
  intro m here
  obtain ⟨performedFirst, there⟩ := first m here
  obtain ⟨performedSecond, beyond⟩ := second _ there
  rw [performed_add, performedFirst, performedSecond, steps_add]
  exact ⟨rfl, beyond⟩

theorem At.isHalted_iff {m : Machine size} (here : m.At tape table i s) :
    m.isHalted = true ↔ tape.length ≤ i := by
  rw [Machine.isHalted_iff, here.program, here.codePointer]

/-- `Leaves tape table i s n`: from position `i` with the store `s`, `n` steps lead beyond the end
of the tape. -/
def Leaves (tape : Tape) (table : Brackets) (i : Nat) (s : Store size) (n : Nat) : Prop :=
  ∃ m : Machine size, m.At tape table i s ∧ (m.steps n).isHalted = true

/-- Whoever leaves the tape gets to every place on the way, and leaves the tape from there. -/
theorem Leads.leaves {n : Nat} (leads : Leads tape table i s k p t)
    (leaves : Leaves tape table i s n) : ∃ rest, n = k + rest ∧ Leaves tape table p t rest := by
  obtain ⟨m, here, finished⟩ := leaves
  obtain ⟨performs, there⟩ := leads m here
  have late : k ≤ n := by
    refine Nat.le_of_not_lt fun early => ?_
    have going := performed_eq_self_iff.mp performs n early
    rw [finished] at going
    contradiction
  obtain ⟨rest, rfl⟩ := Nat.exists_eq_add_of_le late
  rw [steps_add] at finished
  exact ⟨rest, rfl, _, there, finished⟩

/-- Where a byte leads: to behind its target, with the store it acted on. -/
theorem At.step {m : Machine size} {b : UInt8} (here : m.At tape table i s)
    (found : tape[i]? = some b) :
    m.performed 1 = 1 ∧ (m.steps 1).At tape table (m.target b + 1) (s.act b) := by
  have byte : m.program[m.codePointer]? = some b := by
    rw [here.program, here.codePointer, found]
  constructor
  · rw [performed, not_isHalted_iff.mpr (lt_length_of_getElem? byte)]
    rfl
  · rw [steps, steps, step_of_byte byte]
    exact ⟨here.program, here.brackets, rfl, congrArg (Store.act · b) here.store⟩

theorem leads_of_plain {b : UInt8} (plain : isBracket b = false) (found : tape[i]? = some b) :
    Leads tape table i s 1 (i + 1) (s.act b) := by
  intro m here
  have stepped := here.step found
  rwa [target_of_plain plain, here.codePointer] at stepped

/-- An opening bracket on a zero cell leads behind its partner, or beyond the end. -/
theorem leads_of_open_zero (table : Brackets) (found : tape[i]? = some openByte)
    (zero : s.cell = 0) :
    Leads tape table i s 1 ((table.partner? i).getD tape.length + 1) s := by
  rintro m ⟨rfl, rfl, rfl, rfl⟩
  have jumps : m.target openByte = (m.brackets.partner? m.codePointer).getD m.program.length :=
    if_pos zero
  have stepped := At.step ⟨rfl, rfl, rfl, rfl⟩ found
  rwa [jumps] at stepped

/-- An opening bracket on any other cell is passed. -/
theorem leads_of_open_nonzero (table : Brackets) (found : tape[i]? = some openByte)
    (nonzero : s.cell ≠ 0) : Leads tape table i s 1 (i + 1) s := by
  rintro m ⟨rfl, rfl, rfl, rfl⟩
  have stays : m.target openByte = m.codePointer := if_neg nonzero
  have stepped := At.step ⟨rfl, rfl, rfl, rfl⟩ found
  rwa [stays] at stepped

/-- A closing bracket on a zero cell is passed. -/
theorem leads_of_close_zero (found : tape[i]? = some closeByte) (zero : s.cell = 0) :
    Leads tape table i s 1 (i + 1) s := by
  rintro m ⟨rfl, rfl, rfl, rfl⟩
  have stays : m.target closeByte = m.codePointer := if_pos zero
  have stepped := At.step ⟨rfl, rfl, rfl, rfl⟩ found
  rwa [stays] at stepped

/-- A closing bracket on any other cell leads behind its partner. -/
theorem leads_of_close_nonzero (found : tape[i]? = some closeByte) (nonzero : s.cell ≠ 0)
    (paired : table.partner? i = some p) : Leads tape table i s 1 (p + 1) s := by
  rintro m ⟨rfl, rfl, rfl, rfl⟩
  have jumps : m.target closeByte = (m.brackets.partner? m.codePointer).getD 0 :=
    if_neg nonzero
  have stepped := At.step ⟨rfl, rfl, rfl, rfl⟩ found
  rwa [jumps, paired] at stepped

end Machine

open Machine

/-! ## From the structure to the machine -/

variable {tape : Tape} {table : Brackets}

/-- The passes of a loop, from the start of its body to behind its closing bracket. -/
theorem leads_of_while {body : Block} {i k : Nat} {s t : Store size}
    (once : ∀ {j : Nat} {s u : Store size}, body.Runs s j u →
      Leads tape table (i + 1) s j (i + 1 + body.length) u)
    (closing : tape[i + body.length + 1]? = some closeByte)
    (paired : table.partner? (i + body.length + 1) = some i)
    (passes : While body.Runs s k t) (nonzero : s.cell ≠ 0) :
    Leads tape table (i + 1) s k (i + body.length + 2) t := by
  induction passes with
  | done zero => exact absurd zero nonzero
  | @pass s u t j k _ pass again ih =>
    have run := once pass
    rw [Nat.add_right_comm] at run
    by_cases zero : u.cell = 0
    · cases again with
      | done _ => exact run.trans (leads_of_close_zero closing zero)
      | pass stillNonzero _ _ => exact absurd zero stillNonzero
    · -- the jump lands on the opening bracket and is advanced past it, so no test is paid for
      exact (run.trans (leads_of_close_nonzero closing zero paired)).trans (ih zero)

/-- A run of a block is a way through it. -/
theorem Block.leads_of_runs {block : Block} {i k : Nat} {s t : Store size}
    (placed : block.Placed tape table i) (runs : block.Runs s k t) :
    Leads tape table i s k (i + block.length) t := by
  induction block generalizing i k s t with
  | skip =>
    obtain ⟨rfl, rfl⟩ := runs
    exact leads_zero
  | act byte rest ih =>
    obtain ⟨found, placedRest⟩ := placed
    obtain ⟨j, rfl, runsRest⟩ := runs
    have onward := (leads_of_plain byte.property found).trans (ih placedRest runsRest)
    rwa [Nat.add_comm 1, Nat.add_assoc, Nat.add_comm 1] at onward
  | loop body rest ihBody ihRest =>
    obtain ⟨opening, partner, placedBody, closing, back, placedRest⟩ := placed
    obtain ⟨j, u, l, rfl, passes, runsRest⟩ := runs
    have through : Leads tape table i s (1 + j) (i + body.length + 2) u := by
      by_cases zero : s.cell = 0
      · cases passes with
        | done _ =>
          have finished := leads_of_open_zero table opening zero
          rwa [partner] at finished
        | pass nonzero _ _ => exact absurd zero nonzero
      · exact (leads_of_open_nonzero table opening zero).trans
          (leads_of_while (ihBody placedBody) closing back passes zero)
    have onward := through.trans (ihRest placedRest runsRest)
    have ending : i + body.length + 2 + rest.length = i + (Block.loop body rest).length := by
      simp only [length]
      omega
    rwa [ending] at onward

/-- A run of an outline is a way out of the tape. -/
theorem Outline.leads_of_runs {outline : Outline} {i k : Nat} {s t : Store size}
    (placed : outline.Placed tape table i) (runs : outline.Runs s k t) :
    ∃ p, tape.length ≤ p ∧ Leads tape table i s k p t := by
  induction outline generalizing i k s t with
  | last block => exact ⟨_, Nat.le_of_eq placed.2, Block.leads_of_runs placed.1 runs⟩
  | gate block rest ih =>
    obtain ⟨placedBlock, gate, unknown, placedRest⟩ := placed
    obtain ⟨j, u, runsBlock, ⟨zero, rfl, rfl⟩ | ⟨nonzero, l, rfl, runsRest⟩⟩ := runs
    · -- without a partner the jump goes to the end, and the advance beyond it
      have stop := leads_of_open_zero table gate zero
      rw [unknown] at stop
      exact ⟨tape.length + 1, Nat.le_succ _, (Block.leads_of_runs placedBlock runsBlock).trans stop⟩
    · obtain ⟨p, beyond, onward⟩ := ih placedRest runsRest
      have pass := leads_of_open_nonzero table gate nonzero
      exact ⟨p, beyond, ((Block.leads_of_runs placedBlock runsBlock).trans pass).trans onward⟩

/-! ## From the machine to the structure -/

/-- A machine that leaves the tape from within a loop completes the loop's passes. -/
theorem while_of_leaves {body : Block} {i : Nat}
    (once : ∀ {j : Nat} {s u : Store size}, body.Runs s j u →
      Leads tape table (i + 1) s j (i + 1 + body.length) u)
    (finishes : ∀ {n : Nat} {s : Store size}, Leaves tape table (i + 1) s n →
      ∃ j u, body.Runs s j u)
    (closing : tape[i + body.length + 1]? = some closeByte)
    (paired : table.partner? (i + body.length + 1) = some i)
    {n : Nat} {s : Store size} (nonzero : s.cell ≠ 0) (leaves : Leaves tape table (i + 1) s n) :
    ∃ k t, While body.Runs s k t := by
  -- the steps that are left after a pass are fewer, as its closing bracket takes one
  induction n using Nat.strongRecOn generalizing s with
  | ind n ih =>
    obtain ⟨j, u, pass⟩ := finishes leaves
    have run := once pass
    rw [Nat.add_right_comm] at run
    by_cases zero : u.cell = 0
    · exact ⟨_, u, .pass nonzero pass (.done zero)⟩
    · obtain ⟨rest, rfl, onward⟩ :=
        (run.trans (leads_of_close_nonzero closing zero paired)).leaves leaves
      obtain ⟨k, t, again⟩ := ih rest (by omega) zero onward
      exact ⟨_, t, .pass nonzero pass again⟩

/-- A machine that leaves the tape has run every block it came to. -/
theorem Block.runs_of_leaves {block : Block} {i n : Nat} {s : Store size}
    (placed : block.Placed tape table i) (leaves : Leaves tape table i s n) :
    ∃ k t, block.Runs s k t := by
  induction block generalizing i n s with
  | skip => exact ⟨0, s, rfl, rfl⟩
  | act byte rest ih =>
    obtain ⟨found, placedRest⟩ := placed
    obtain ⟨_, _, onward⟩ := (leads_of_plain byte.property found).leaves leaves
    obtain ⟨k, t, runsRest⟩ := ih placedRest onward
    exact ⟨k + 1, t, k, rfl, runsRest⟩
  | loop body rest ihBody ihRest =>
    obtain ⟨opening, partner, placedBody, closing, back, placedRest⟩ := placed
    by_cases zero : s.cell = 0
    · have finished := leads_of_open_zero table opening zero
      rw [partner] at finished
      obtain ⟨_, _, onward⟩ := finished.leaves leaves
      obtain ⟨k, t, runsRest⟩ := ihRest placedRest onward
      exact ⟨_, t, 0, s, k, rfl, .done zero, runsRest⟩
    · have entering := leads_of_open_nonzero table opening zero
      obtain ⟨_, _, inside⟩ := entering.leaves leaves
      obtain ⟨j, u, passes⟩ := while_of_leaves (Block.leads_of_runs placedBody)
        (ihBody placedBody) closing back zero inside
      obtain ⟨_, _, onward⟩ := (leads_of_while (Block.leads_of_runs placedBody) closing back
        passes zero).leaves inside
      obtain ⟨k, t, runsRest⟩ := ihRest placedRest onward
      exact ⟨_, t, j, u, k, rfl, passes, runsRest⟩

/-- A machine that leaves the tape has run the outline. -/
theorem Outline.runs_of_leaves {outline : Outline} {i n : Nat} {s : Store size}
    (placed : outline.Placed tape table i) (leaves : Leaves tape table i s n) :
    ∃ k t, outline.Runs s k t := by
  induction outline generalizing i n s with
  | last block => exact Block.runs_of_leaves placed.1 leaves
  | gate block rest ih =>
    obtain ⟨placedBlock, gate, _, placedRest⟩ := placed
    obtain ⟨j, u, runsBlock⟩ := Block.runs_of_leaves placedBlock leaves
    obtain ⟨_, _, atGate⟩ := (Block.leads_of_runs placedBlock runsBlock).leaves leaves
    by_cases zero : u.cell = 0
    · exact ⟨j + 1, u, j, u, runsBlock, .inl ⟨zero, rfl, rfl⟩⟩
    · have pass := leads_of_open_nonzero table gate zero
      obtain ⟨_, _, onward⟩ := pass.leaves atGate
      obtain ⟨l, t, runsRest⟩ := ih placedRest onward
      exact ⟨_, t, j, u, runsBlock, .inr ⟨zero, l, rfl, runsRest⟩⟩

/-! ## The machine and the structure agree -/

/-- A tape without stray brackets has one outline. A machine that is at the start of the tape leaves
the tape if and only if the outline comes to an end. It does so with the step that the outline's
cost names; after it the machine has the outline's store and has performed as many instructions. -/
theorem steps_agree_with_outline (m : Machine size) (start : m.codePointer = 0) {tape : Tape}
    (matched : tape.NoStray) :
    (∃! outline : Outline, outline.tape = tape) ∧
    ∀ outline : Outline, outline.tape = tape →
      ((∃ n, ((m.load tape).steps n).isHalted = true) ↔
        ∃ cost store, outline.Runs m.store cost store) ∧
      ∀ cost store, outline.Runs m.store cost store →
        (∀ n < cost, ((m.load tape).steps n).isHalted = false) ∧
        ∀ n, cost ≤ n →
          ((m.load tape).steps n).isHalted = true ∧
          ((m.load tape).steps n).store = store ∧
          ((m.load tape).steps n).operations = m.operations + cost := by
  refine ⟨existsUnique_outline matched, ?_⟩
  rintro outline rfl
  have here : (m.load outline.tape).At outline.tape (Brackets.ofTape outline.tape) 0 m.store :=
    ⟨rfl, rfl, start, rfl⟩
  have forward : ∀ {cost : Nat} {store : Store size}, outline.Runs m.store cost store →
      (m.load outline.tape).performed cost = cost ∧
      ((m.load outline.tape).steps cost).isHalted = true ∧
      ((m.load outline.tape).steps cost).store = store := by
    intro cost store runs
    obtain ⟨p, beyond, leads⟩ := outline.leads_of_runs (placed_outline outline) runs
    obtain ⟨performs, there⟩ := leads _ here
    exact ⟨performs, there.isHalted_iff.mpr beyond, there.store⟩
  constructor
  · constructor
    · rintro ⟨n, finished⟩
      exact outline.runs_of_leaves (placed_outline outline) ⟨_, here, finished⟩
    · rintro ⟨cost, store, runs⟩
      exact ⟨cost, (forward runs).2.1⟩
  · intro cost store runs
    obtain ⟨performs, finished, last⟩ := forward runs
    refine ⟨performed_eq_self_iff.mp performs, fun n late => ?_⟩
    obtain ⟨status, same⟩ := steps_of_le late finished
    rw [operations_steps, performed_eq_of_le late finished, performs, same]
    exact ⟨finished, last, rfl⟩

/-- The outline of `+[>+<-][`: one is carried to the next cell, and then a gate is shut. -/
def carryOutline : Outline :=
  .gate (.act ⟨43, rfl⟩ (.loop
    (.act ⟨62, rfl⟩ (.act ⟨43, rfl⟩ (.act ⟨60, rfl⟩ (.act ⟨45, rfl⟩ .skip)))) .skip)) (.last .skip)

theorem steps_agree_with_carryOutline :
    (blank 2 Nat.two_pos).codePointer = 0 ∧ carryOutline.tape.NoStray ∧
    (((blank 2 Nat.two_pos).load carryOutline.tape).steps 7).isHalted = false ∧
    (((blank 2 Nat.two_pos).load carryOutline.tape).steps 8).isHalted = true ∧
    (((blank 2 Nat.two_pos).load carryOutline.tape).steps 8).store = ⟨#v[0, 1], 0, #[], []⟩ ∧
    (((blank 2 Nat.two_pos).load carryOutline.tape).steps 8).operations = 8 := by
  have matched : carryOutline.tape.NoStray := by decide
  have runs : carryOutline.Runs (blank 2 Nat.two_pos).store 8 ⟨#v[0, 1], 0, #[], []⟩ := by
    refine ⟨7, _, ⟨6, rfl, 5, _, 0, rfl, .pass (by decide) ?_ (.done (by decide)), rfl, rfl⟩,
      .inl ⟨by decide, rfl, rfl⟩⟩
    exact ⟨3, rfl, 2, rfl, 1, rfl, 0, rfl, rfl, rfl⟩
  have agree := (steps_agree_with_outline (blank 2 Nat.two_pos) rfl matched).2 carryOutline rfl
  obtain ⟨before, after⟩ := agree.2 8 _ runs
  exact ⟨rfl, matched, before 7 (by decide), after 8 (by decide)⟩

end TapeSwarm
