import Mathlib
import TapeSwarm.Machine.Snapshot
import TapeSwarm.Proofs.Machine.Budget
import TapeSwarm.Proofs.Machine.Ring

/-!
# Ribbons

A *ribbon* has a cell for every integer, where a ring has a cell for every residue. A run that is
short for the size of a ring cannot tell the two apart.

What a run has touched of a ribbon is a *window* of neighbouring cells, which grows by at most one
cell with every step; the position is within the window or next to it. As long as the window is
narrower than the ring, the ribbon winds around the ring without overlapping itself
(`Ribbon.Winds`), so that each cell of the ring shows one cell of the window or is blank. The window
is only as wide as the steps before, so the last step may lead around the ring, but nothing is read
or written after it.

Results:
1. `Follows.step`, `Follows.steps`: a machine on a ring follows the one on a ribbon.
2. `Ribbon.Winds.sum_memory`: the sum over a ring is the sum over the window.
3. `execute_unrolled`: what a clean run on a ring answers is what a ribbon shows.
4. `execute_eq_of_room`: so it does not depend on the size of the ring.
-/

namespace TapeSwarm

/-- What the instructions of a program act on, if the cells have no end on either side. -/
structure Ribbon where
  cells : Int → UInt8
  position : Int
  output : Array UInt8
  input : List UInt8

namespace Ribbon

/-- The cell at the position. -/
def cell (r : Ribbon) : UInt8 :=
  r.cells r.position

/-- Writes the cell at the position. -/
def write (r : Ribbon) (value : UInt8) : Ribbon :=
  { r with cells := fun x => if x = r.position then value else r.cells x }

/-- The action of a byte. -/
def act (r : Ribbon) (b : UInt8) : Ribbon :=
  match Instruction.ofByte? b with
  | some .right => { r with position := r.position + 1 }
  | some .left => { r with position := r.position - 1 }
  | some .increment => r.write (r.cell + 1)
  | some .decrement => r.write (r.cell - 1)
  | some .emit => { r with output := r.output.push r.cell }
  | some .accept =>
    match r.input with
    | [] => r
    | value :: rest => { r.write value with input := rest }
  | some .opening | some .closing | none => r

/-- The sum of the cells less than `reach` cells to the right of the start, and up to `reach` cells
to the left. -/
def sum (r : Ribbon) (reach : Nat) : Nat :=
  ((List.range (reach + reach)).map fun i : Nat => (r.cells (i - reach)).toNat).sum

/-- The first cells, from the start to the right. -/
def pattern (r : Ribbon) (shown : Nat) : List Int :=
  (List.range shown).map fun i : Nat => ((r.cells i).toNat : Int)

end Ribbon

/-- The position that a byte of a tape moves on from, on a cell. -/
def Tape.target (tape : Tape) (i : Nat) (cell b : UInt8) : Nat :=
  match Instruction.ofByte? b with
  | some .opening =>
    if cell = 0 then ((Brackets.ofTape tape).partner? i).getD tape.length else i
  | some .closing => if cell = 0 then i else ((Brackets.ofTape tape).partner? i).getD 0
  | _ => i

/-- A machine on a ribbon, apart from its program. -/
structure Unrolled where
  ribbon : Ribbon
  codePointer : Nat
  operations : Nat

namespace Unrolled

/-- A blank ribbon, with input. -/
def start (input : List UInt8) : Unrolled :=
  ⟨⟨fun _ => 0, 0, #[], input⟩, 0, 0⟩

/-- Performs one instruction of a tape, if there is one. -/
def step (tape : Tape) (u : Unrolled) : Unrolled :=
  match tape[u.codePointer]? with
  | none => u
  | some b =>
    ⟨u.ribbon.act b, tape.target u.codePointer u.ribbon.cell b + 1, u.operations + 1⟩

/-- After `n` steps. -/
def steps (tape : Tape) (u : Unrolled) : Nat → Unrolled
  | 0 => u
  | n + 1 => (u.step tape).steps tape n

/-- What is read off a ribbon after a run that got less than `reach` cells away from its start. -/
def snapshot (u : Unrolled) (reach shown : Nat) : Snapshot where
  operations := u.operations
  memorySum := u.ribbon.sum reach
  pattern := u.ribbon.pattern shown
  output := u.ribbon.output.toList.map fun v => v.toNat

end Unrolled

/-! ## Winding a ribbon around a ring -/

namespace Ribbon

variable {size : Nat}

/-- The ribbon, blank outside the `width` cells from `low` on, winds around the ring of a store. -/
structure Winds (r : Ribbon) (low : Int) (width : Nat) (s : Store size) : Prop where
  cells : ∀ x, low ≤ x → x < low + size → s.memory[(x % size).toNat]? = some (r.cells x)
  blank : ∀ x, x < low ∨ low + width ≤ x → r.cells x = 0
  pointer : (s.pointer.val : Int) = r.position % size
  output : s.output = r.output
  input : s.input = r.input

/-- The position is within the window. -/
def Within (r : Ribbon) (low : Int) (width : Nat) : Prop :=
  low ≤ r.position ∧ r.position < low + width

/-- The position is within the window or next to it. -/
def Near (r : Ribbon) (low : Int) (width : Nat) : Prop :=
  low - 1 ≤ r.position ∧ r.position ≤ low + width

variable {r : Ribbon} {s : Store size} {low : Int} {width : Nat}

/-- Two positions less than a ring apart are the same if they are wound onto the same cell. -/
theorem eq_of_emod_eq {x y : Int} (same : x % size = y % size) (above : x - y < size)
    (below : y - x < size) : x = y := by
  have divides : (size : Int) ∣ x - y :=
    Int.dvd_of_emod_eq_zero (Int.emod_eq_emod_iff_emod_sub_eq_zero.mp same)
  have nothing := Int.eq_zero_of_abs_lt_dvd divides (abs_lt.mpr ⟨by omega, above⟩)
  omega

/-- The window can be widened by one cell to hold the position. -/
theorem Winds.widen (winds : r.Winds low width s) (near : r.Near low width)
    (room : width < size) :
    ∃ (low' : Int) (width' : Nat), low' ≤ low ∧ low + width ≤ low' + width' ∧ width' ≤ width + 1 ∧
      r.Winds low' width' s ∧ r.Within low' width' := by
  obtain ⟨left, right⟩ := near
  by_cases before : r.position < low
  · refine ⟨low - 1, width + 1, by omega, by omega, Nat.le_refl _, ?_, by omega, by omega⟩
    refine ⟨fun x from_ upTo => ?_, fun x outside => winds.blank x (by omega), winds.pointer,
      winds.output, winds.input⟩
    by_cases new : x = low - 1
    · -- the cell that comes in is wound onto the one that goes out, and both are blank
      have shown := winds.cells (x + size) (by omega) (by omega)
      rw [Int.add_emod_right, winds.blank (x + size) (by omega)] at shown
      rw [shown, winds.blank x (by omega)]
    · exact winds.cells x (by omega) (by omega)
  · by_cases behind : low + width ≤ r.position
    · refine ⟨low, width + 1, Int.le_refl _, by omega, Nat.le_refl _, ?_, by omega, by omega⟩
      exact ⟨winds.cells, fun x outside => winds.blank x (by omega), winds.pointer, winds.output,
        winds.input⟩
    · exact ⟨low, width, Int.le_refl _, Int.le_refl _, Nat.le_succ _, winds, by omega, by omega⟩

theorem Winds.toNat_position (winds : r.Winds low width s) :
    (r.position % size).toNat = s.pointer.val := by
  rw [← winds.pointer, Int.toNat_natCast]

/-- The store shows the cell at the position. -/
theorem Winds.cell (winds : r.Winds low width s) (within : r.Within low width)
    (room : width ≤ size) : s.cell = r.cell := by
  obtain ⟨left, right⟩ := within
  have shown := winds.cells r.position left (by omega)
  rw [winds.toNat_position, Vector.getElem?_eq_getElem s.pointer.isLt] at shown
  exact Option.some.inj shown

theorem Winds.write (winds : r.Winds low width s) (within : r.Within low width)
    (room : width ≤ size) (value : UInt8) : (r.write value).Winds low width (s.write value) := by
  obtain ⟨left, right⟩ := within
  refine ⟨fun x from_ upTo => ?_, fun x outside => ?_, winds.pointer, winds.output, winds.input⟩
  · show (s.memory.set s.pointer value)[(x % size).toNat]? =
      some (if x = r.position then value else r.cells x)
    rw [Vector.getElem?_set, ← winds.toNat_position]
    by_cases here : x = r.position
    · rw [here, if_pos rfl, if_pos rfl]
    · have apart : (r.position % size).toNat ≠ (x % size).toNat := by
        intro same
        have positive : (0 : Int) < size := by omega
        have nonneg := Int.emod_nonneg r.position (Int.ne_of_gt positive)
        have nonneg' := Int.emod_nonneg x (Int.ne_of_gt positive)
        have equal : x % size = r.position % size := by omega
        exact here (eq_of_emod_eq equal (by omega) (by omega))
      rw [if_neg here, if_neg apart]
      exact winds.cells x from_ upTo
  · show (if x = r.position then value else r.cells x) = 0
    rw [if_neg (by omega)]
    exact winds.blank x outside

/-- Moving along the ribbon is turning the ring. -/
theorem Winds.turn (winds : r.Winds low width s) (j : Int) :
    Winds { r with position := r.position + j } low width
      { s with pointer := Machine.turn j s.pointer } where
  cells := winds.cells
  blank := winds.blank
  pointer := by
    show ((Machine.turn j s.pointer).val : Int) = (r.position + j) % size
    rw [Machine.val_turn, winds.pointer, Int.emod_add_emod]
  output := winds.output
  input := winds.input

/-- Acting on the cell at the position keeps ribbon and store together. -/
theorem Winds.act (winds : r.Winds low width s) (within : r.Within low width)
    (room : width ≤ size) (b : UInt8) :
    (r.act b).Winds low width (s.act b) ∧ (r.act b).Near low width := by
  have same := winds.cell within room
  have stays : r.Near low width := by
    obtain ⟨left, right⟩ := within
    constructor <;> omega
  cases found : Instruction.ofByte? b with
  | none =>
    simp only [Ribbon.act, Store.act, found]
    exact ⟨winds, stays⟩
  | some instruction =>
    cases instruction with
    | right =>
      simp only [Ribbon.act, Store.act, found, Machine.clockwise_eq_turn]
      obtain ⟨left, right⟩ := within
      exact ⟨winds.turn 1, by constructor <;> dsimp only <;> omega⟩
    | left =>
      simp only [Ribbon.act, Store.act, found, Machine.counterclockwise_eq_turn]
      obtain ⟨left, right⟩ := within
      exact ⟨winds.turn (-1), by constructor <;> dsimp only <;> omega⟩
    | increment =>
      simp only [Ribbon.act, Store.act, found, same]
      exact ⟨winds.write within room _, stays⟩
    | decrement =>
      simp only [Ribbon.act, Store.act, found, same]
      exact ⟨winds.write within room _, stays⟩
    | emit =>
      simp only [Ribbon.act, Store.act, found, same, winds.output]
      exact ⟨⟨winds.cells, winds.blank, winds.pointer, rfl, winds.input⟩, stays⟩
    | accept =>
      simp only [Ribbon.act, Store.act, found, winds.input]
      cases queue : r.input with
      | nil => exact ⟨winds, stays⟩
      | cons value rest =>
        have written := winds.write within room value
        exact ⟨⟨written.cells, written.blank, written.pointer, written.output, rfl⟩, stays⟩
    | opening | closing =>
      simp only [Ribbon.act, Store.act, found]
      exact ⟨winds, stays⟩

theorem sum_eq (r : Ribbon) (reach : Nat) :
    r.sum reach = ∑ x ∈ Finset.Ico (-(reach : Int)) reach, (r.cells x).toNat := by
  have listed : r.sum reach =
      ∑ i ∈ Finset.range (reach + reach), (r.cells (i - reach)).toNat := rfl
  rw [listed]
  refine Finset.sum_nbij' (fun i : Nat => (i : Int) - reach) (fun x => (x + reach).toNat)
    ?_ ?_ ?_ ?_ ?_
  · intro i member
    rw [Finset.mem_range] at member
    rw [Finset.mem_Ico]
    omega
  · intro x member
    rw [Finset.mem_Ico] at member
    rw [Finset.mem_range]
    omega
  · intro i _
    rw [Int.sub_add_cancel, Int.toNat_natCast]
  · intro x member
    rw [Finset.mem_Ico] at member
    omega
  · intro i _
    rfl

/-- All stretches of the ribbon that hold the window have the same sum. -/
theorem Winds.sum_cells (winds : r.Winds low width s) {first last : Int} (before : first ≤ low)
    (behind : low + width ≤ last) :
    ∑ x ∈ Finset.Ico first last, (r.cells x).toNat =
      ∑ x ∈ Finset.Ico low (low + width), (r.cells x).toNat := by
  refine (Finset.sum_subset (Finset.Ico_subset_Ico before behind) fun x _ outside => ?_).symm
  rw [Finset.mem_Ico, not_and_or, Int.not_le, Int.not_lt] at outside
  rw [winds.blank x outside]
  rfl

/-- The sum over the ring is the sum over the ribbon, as far as the window reaches. -/
theorem Winds.sum_memory (winds : r.Winds low width s) (room : width ≤ size) {reach : Nat}
    (before : -(reach : Int) ≤ low) (behind : low + width ≤ reach) :
    ∑ i : Fin size, (s.memory[i]).toNat = r.sum reach := by
  have positive : (0 : Int) < size := by
    have inside := s.pointer.isLt
    omega
  have range (x : Int) : 0 ≤ x % size ∧ x % size < size :=
    ⟨Int.emod_nonneg x (Int.ne_of_gt positive), Int.emod_lt_of_pos x positive⟩
  have turn : ∑ x ∈ Finset.Ico low (low + size), (r.cells x).toNat =
      ∑ i : Fin size, (s.memory[i]).toNat := by
    refine Finset.sum_nbij' (fun x => ⟨(x % size).toNat, by have := range x; omega⟩)
      (fun i => low + ((i.val : Int) - low) % size) ?_ ?_ ?_ ?_ ?_
    · exact fun x _ => Finset.mem_univ _
    · intro i _
      have residue := range (i.val - low)
      rw [Finset.mem_Ico]
      omega
    · intro x member
      rw [Finset.mem_Ico] at member
      have index : ((x % size).toNat : Int) = x % size := Int.toNat_of_nonneg (range x).1
      show low + (((x % size).toNat : Int) - low) % size = x
      rw [index, Int.emod_sub_emod, Int.emod_eq_of_lt (by omega) (by omega)]
      omega
    · intro i _
      have inside : (i.val : Int) % size = i.val := Int.emod_eq_of_lt (by omega) (by omega)
      refine Fin.ext ?_
      show ((low + ((i.val : Int) - low) % size) % size).toNat = i.val
      rw [Int.add_emod_emod, add_sub_cancel, inside, Int.toNat_natCast]
    · intro x member
      rw [Finset.mem_Ico] at member
      have shown := winds.cells x member.1 member.2
      rw [Vector.getElem?_eq_getElem (by have := range x; omega)] at shown
      exact congrArg UInt8.toNat (Option.some.inj shown).symm
  rw [← turn, sum_eq, winds.sum_cells (Int.le_refl _) (by omega), winds.sum_cells before behind]

end Ribbon

/-! ## Following -/

namespace Machine

variable {size : Nat}

/-- What is summed over a list of cells is summed over their indices. -/
theorem sum_map_toList (cells : Vector UInt8 size) (f : UInt8 → Nat) :
    (cells.toList.map f).sum = ∑ i : Fin size, f (cells.get i) := by
  have listed : cells.toList.map f = List.ofFn fun i : Fin size => f (cells.get i) := by
    refine List.ext_getElem (by simp) fun i _ _ => ?_
    rw [List.getElem_map, List.getElem_ofFn, Vector.getElem_toList]
    rfl
  rw [listed, List.sum_ofFn]

/-- The sum of all cells, as a sum over their indices. -/
theorem memorySum_eq_sum (m : Machine size) :
    m.memorySum = ∑ i : Fin size, (m.memory[i]).toNat :=
  calc
    m.memorySum = m.memory.toList.foldl (fun total v => total + v.toNat) 0 :=
      (Vector.foldl_toList _).symm
    _ = (m.memory.toList.map UInt8.toNat).foldl (· + ·) 0 := List.foldl_map.symm
    _ = (m.memory.toList.map UInt8.toNat).sum := List.sum_eq_foldl.symm
    _ = ∑ i : Fin size, (m.memory[i]).toNat := sum_map_toList m.memory UInt8.toNat

theorem target_eq {m : Machine size} (own : m.brackets = Brackets.ofTape m.program) (b : UInt8) :
    m.target b = m.program.target m.codePointer m.cell b := by
  have looked : m.brackets.partner? m.codePointer =
      (Brackets.ofTape m.program).partner? m.codePointer := by rw [own]
  unfold target Tape.target
  cases Instruction.ofByte? b with
  | none => rfl
  | some instruction =>
    cases instruction with
    | opening => simp only [looked]
    | closing => simp only [looked]
    | right | left | increment | decrement | emit | accept => rfl

/-- A machine on a ring follows one on a ribbon, whose window has `width` cells from `low` on and
holds the start or has it as its end. -/
structure Follows (tape : Tape) (u : Unrolled) (low : Int) (width : Nat) (m : Machine size) :
    Prop where
  program : m.program = tape
  brackets : m.brackets = Brackets.ofTape tape
  codePointer : m.codePointer = u.codePointer
  operations : m.operations = u.operations
  winds : u.ribbon.Winds low width m.store
  near : u.ribbon.Near low width
  start : low ≤ 0 ∧ 0 ≤ low + width

variable {tape : Tape} {u : Unrolled} {low : Int} {width : Nat} {m : Machine size}

/-- A step keeps the two together and widens the window by at most one cell. -/
theorem Follows.step (follows : Follows tape u low width m) (room : width < size) :
    ∃ (low' : Int) (width' : Nat), width' ≤ width + 1 ∧
      Follows tape (u.step tape) low' width' m.step.1 := by
  obtain ⟨rfl, own, place, count, winds, near, left, right⟩ := follows
  rcases step_cases m with ⟨finished, stepped⟩ | ⟨b, found, stepped⟩
  · refine ⟨low, width, Nat.le_succ width, ?_⟩
    have nothing : m.program[u.codePointer]? = none := by
      rw [← place]
      exact List.getElem?_eq_none (isHalted_iff.mp finished)
    rw [stepped, Unrolled.step, nothing]
    exact ⟨rfl, own, place, count, winds, near, left, right⟩
  · obtain ⟨low', width', before, behind, few, wider, within⟩ := winds.widen near room
    obtain ⟨acted, nearer⟩ := wider.act within (by omega) b
    have same : m.cell = u.ribbon.cell := wider.cell within (by omega)
    refine ⟨low', width', few, ?_⟩
    have jump := target_eq own b
    rw [place] at found
    rw [stepped, Unrolled.step, found]
    refine ⟨rfl, own, ?_, congrArg (· + 1) count, acted, nearer, by omega, by omega⟩
    show m.target b + 1 = m.program.target u.codePointer u.ribbon.cell b + 1
    rw [jump, place, same]

/-- So do as many steps as leave the window narrower than the ring. -/
theorem Follows.steps (follows : Follows tape u low width m) {n : Nat} (room : width + n ≤ size) :
    ∃ (low' : Int) (width' : Nat), width' ≤ width + n ∧
      Follows tape (u.steps tape n) low' width' (m.steps n) := by
  induction n generalizing u m low width with
  | zero => exact ⟨low, width, Nat.le_refl width, follows⟩
  | succ n ih =>
    obtain ⟨low₁, width₁, first, one⟩ := follows.step (by omega)
    obtain ⟨low₂, width₂, others, all⟩ := ih one (by omega)
    exact ⟨low₂, width₂, by omega, all⟩

/-- A machine with a blank ring follows one with a blank ribbon. -/
theorem follows_start (positive : 0 < size) (input : List UInt8) (tape : Tape) :
    Follows tape (.start input) 0 0 ((((blank size positive).feed input).reset).load tape) where
  program := rfl
  brackets := rfl
  codePointer := rfl
  operations := rfl
  winds := {
    cells := by
      intro x from_ upTo
      show (Vector.replicate size (0 : UInt8))[(x % size).toNat]? = some 0
      have residue := Int.emod_lt_of_pos x (b := size) (by omega)
      rw [Vector.getElem?_replicate, if_pos (by omega)]
    blank := fun _ _ => rfl
    pointer := rfl
    output := rfl
    input := List.nil_append input }
  near := by
    show (0 : Int) - 1 ≤ 0 ∧ (0 : Int) ≤ 0 + 0
    decide
  start := by decide

/-- A pattern shows the ribbon from its start on, as long as the ring has no cell of the window in
its place. -/
theorem Follows.pattern_eq (follows : Follows tape u low width m) {shown : Nat}
    (room : width + shown ≤ size) : m.pattern shown = u.ribbon.pattern shown := by
  have length : patternLength size shown = shown := by
    unfold patternLength
    rw [if_neg (by omega)]
    omega
  unfold pattern Ribbon.pattern
  rw [length]
  refine List.ext_getElem ?_ fun i inPattern _ => ?_
  · simp
    omega
  · obtain ⟨left, right⟩ := follows.start
    have inside : i < shown := by simp at inPattern; omega
    have cell := follows.winds.cells i (by omega) (by omega)
    have index : ((i : Int) % size).toNat = i := by
      rw [Int.emod_eq_of_lt (by omega) (by omega), Int.toNat_natCast]
    rw [index] at cell
    have shows : m.memory[i] = u.ribbon.cells i := by
      rw [Vector.getElem?_eq_getElem (by omega)] at cell
      exact Option.some.inj cell
    simp [shows]

/-! ## Clean runs -/

/-- What a clean run on a ring answers and leaves is what a run on a ribbon does, as long as the
ring has a cell for every step and every cell of the pattern. -/
theorem execute_unrolled {source : Source} {tape : Tape} (read : source.read = .ok tape)
    (n shown : Nat) (input : List UInt8) (positive : 0 < size) (room : n + shown ≤ size) :
    let done := ((blank size positive).feed input).execute source (.ofInt n) shown
    let u := (Unrolled.start input).steps tape n
    done.2 = .ok (u.snapshot n shown) ∧ done.1.input = u.ribbon.input ∧
      done.1.codePointer = u.codePointer := by
  intro done u
  obtain ⟨low, width, few, follows⟩ := (follows_start positive input tape).steps (n := n) (by omega)
  obtain ⟨left, right⟩ := follows.start
  have clean : ((blank size positive).feed input).runClean tape (.ofInt n) =
      ((((blank size positive).feed input).reset.load tape).steps n).relabel u.operations
        .halted := by
    -- the count starts at zero, so what a run performs is what the steps count
    have count := follows.operations
    rw [operations_steps] at count
    have performs := (Nat.zero_add _).symm.trans count
    rw [runClean_ofInt, Int.toNat_natCast, performs]
  have answer : done = (_, .ok _) := execute_of_read read _ _ _
  rw [answer, clean]
  refine ⟨congrArg Except.ok ?_, follows.winds.input, follows.codePointer⟩
  generalize (((blank size positive).feed input).reset.load tape).steps n = m at follows
  have sum : m.memorySum = u.ribbon.sum n := by
    rw [memorySum_eq_sum]
    exact follows.winds.sum_memory (by omega) (by omega) (by omega)
  have pattern : m.pattern shown = u.ribbon.pattern shown := follows.pattern_eq (by omega)
  have output : m.output = u.ribbon.output := follows.winds.output
  show Snapshot.mk u.operations m.memorySum (m.pattern shown)
    (m.output.toList.map fun v => (v.toNat : Int)) = u.snapshot n shown
  rw [sum, pattern, output]
  rfl

/-- Two rings with a cell for every step and every cell of the pattern, and one at least, cannot be
told apart by a clean run: on new machines with the same input it has the same answer, and leaves
the same input and the same code pointer. -/
theorem execute_eq_of_room (source : Source) (n shown : Nat) (input : List UInt8)
    {first second : Nat} (roomFirst : max 1 (n + shown) ≤ first)
    (roomSecond : max 1 (n + shown) ≤ second) :
    let one := ((blank first (Nat.le_trans (Nat.le_max_left 1 _) roomFirst)).feed input).execute
      source (.ofInt n) shown
    let other := ((blank second (Nat.le_trans (Nat.le_max_left 1 _) roomSecond)).feed input).execute
      source (.ofInt n) shown
    one.2 = other.2 ∧ one.1.input = other.1.input ∧ one.1.codePointer = other.1.codePointer := by
  intro one other
  have positive : 0 < first := Nat.le_trans (Nat.le_max_left 1 _) roomFirst
  have positive' : 0 < second := Nat.le_trans (Nat.le_max_left 1 _) roomSecond
  cases read : source.read with
  | error fault =>
    -- both machines have been reset, and keep their input
    have here : one = (((blank first positive).feed input).reset, .error fault) := by
      simp only [one, execute, read]
    have there : other = (((blank second positive').feed input).reset, .error fault) := by
      simp only [other, execute, read]
    rw [here, there]
    exact ⟨rfl, rfl, rfl⟩
  | ok tape =>
    obtain ⟨answer, left, place⟩ := execute_unrolled read n shown input positive
      (Nat.le_trans (Nat.le_max_right 1 _) roomFirst)
    obtain ⟨answer', left', place'⟩ := execute_unrolled read n shown input positive'
      (Nat.le_trans (Nat.le_max_right 1 _) roomSecond)
    exact ⟨answer.trans answer'.symm, left.trans left'.symm, place.trans place'.symm⟩

/-- A run that goes to the left of the start, where the two rings have different cells. -/
theorem execute_eq_of_room_leftward :
    max 1 (5 + 3) ≤ 8 ∧ max 1 (5 + 3) ≤ 11 ∧
    (((blank 8 (by decide)).feed [7, 9]).execute (.text ['<', ',', '<', '-', '.'])
      (.ofInt 5) 3).2 = .ok ⟨5, 262, [0, 0, 0], [255]⟩ ∧
    (((blank 11 (by decide)).feed [7, 9]).execute (.text ['<', ',', '<', '-', '.'])
      (.ofInt 5) 3).2 = .ok ⟨5, 262, [0, 0, 0], [255]⟩ := by
  have first : max 1 (5 + 3) ≤ 8 := by decide
  have second : max 1 (5 + 3) ≤ 11 := by decide
  obtain ⟨same, _⟩ :=
    execute_eq_of_room (.text ['<', ',', '<', '-', '.']) 5 3 [7, 9] first second
  have shown : (((blank 8 (by decide)).feed [7, 9]).execute (.text ['<', ',', '<', '-', '.'])
      (.ofInt 5) 3).2 = .ok ⟨5, 262, [0, 0, 0], [255]⟩ := rfl
  exact ⟨first, second, shown, same.symm.trans shown⟩

end Machine

end TapeSwarm
