import TapeSwarm.Tape.Brackets

/-!
# The bracket scan

What the scan for brackets does with each kind of byte. Later results on bracket tables go through
these equations.

Result: `partner?_lt_length`, that partners are positions of the tape.
-/

namespace TapeSwarm

/-! ## Brackets among the bytes -/

/-- Whether a byte stands for a bracket. -/
def isBracket (b : UInt8) : Bool :=
  Instruction.ofByte? b = some .opening || Instruction.ofByte? b = some .closing

/-- A byte that is no bracket. -/
abbrev PlainByte := { b : UInt8 // isBracket b = false }

/-- The byte of an opening bracket. -/
abbrev openByte : UInt8 := Instruction.opening.byte

/-- The byte of a closing bracket. -/
abbrev closeByte : UInt8 := Instruction.closing.byte

/-- A byte is plain, or one of the two brackets. -/
theorem plain_or_bracket (b : UInt8) : isBracket b = false ∨ b = openByte ∨ b = closeByte := by
  cases bracket : isBracket b with
  | false => exact .inl rfl
  | true =>
    simp only [isBracket, Bool.or_eq_true, decide_eq_true_eq] at bracket
    exact .inr (bracket.imp Instruction.ofByte?_eq_some_iff.mp Instruction.ofByte?_eq_some_iff.mp)

theorem ne_openByte {b : UInt8} (plain : isBracket b = false) : b ≠ openByte := by
  rintro rfl
  exact absurd plain (by decide)

theorem ne_closeByte {b : UInt8} (plain : isBracket b = false) : b ≠ closeByte := by
  rintro rfl
  exact absurd plain (by decide)

/-! ## The scan, byte by byte -/

namespace Brackets

theorem scanFrom_plain {b : UInt8} (plain : isBracket b = false) (i : Nat) (waiting : List Nat)
    (table : Brackets) (rest : Tape) :
    scanFrom i waiting table (b :: rest) = scanFrom (i + 1) waiting table rest := by
  simp only [isBracket, Bool.or_eq_false_iff, decide_eq_false_iff_not] at plain
  obtain ⟨notOpen, notClose⟩ := plain
  cases found : Instruction.ofByte? b with
  | none => simp only [scanFrom, found]
  | some instruction =>
    cases instruction with
    | opening => exact absurd found notOpen
    | closing => exact absurd found notClose
    | right | left | increment | decrement | emit | accept => simp only [scanFrom, found]

theorem scanFrom_open (i : Nat) (waiting : List Nat) (table : Brackets) (rest : Tape) :
    scanFrom i waiting table (openByte :: rest) = scanFrom (i + 1) (i :: waiting) table rest := rfl

theorem scanFrom_close (i start : Nat) (waiting : List Nat) (table : Brackets) (rest : Tape) :
    scanFrom i (start :: waiting) table (closeByte :: rest) =
      scanFrom (i + 1) waiting ((i, start) :: (start, i) :: table) rest := rfl

theorem scanFrom_stray (i : Nat) (table : Brackets) (rest : Tape) :
    scanFrom i [] table (closeByte :: rest) = ⟨table, some i⟩ := rfl

/-! ## The positions in a table -/

/-- Whatever holds of the positions of brackets holds of all positions that a scan enters. -/
theorem forall_mem_scanFrom {P : Nat → Prop} {tape : Tape} {i : Nat} {waiting : List Nat}
    {table : Brackets} (brackets : ∀ j b, tape[j]? = some b → isBracket b = true → P (i + j))
    (opened : ∀ start ∈ waiting, P start) (known : ∀ pair ∈ table, P pair.1 ∧ P pair.2) :
    ∀ pair ∈ (scanFrom i waiting table tape).table, P pair.1 ∧ P pair.2 := by
  induction tape generalizing i waiting table with
  | nil => exact known
  | cons b rest ih =>
    have here : isBracket b = true → P i := brackets 0 b rfl
    have later : ∀ j c, rest[j]? = some c → isBracket c = true → P (i + 1 + j) := by
      intro j c found bracket
      rw [Nat.add_right_comm]
      exact brackets (j + 1) c found bracket
    rcases plain_or_bracket b with plain | rfl | rfl
    · rw [scanFrom_plain plain]
      exact ih later opened known
    · rw [scanFrom_open]
      exact ih later (List.forall_mem_cons.mpr ⟨here rfl, opened⟩) known
    · cases waiting with
      | nil =>
        rw [scanFrom_stray]
        exact known
      | cons start more =>
        obtain ⟨first, others⟩ := List.forall_mem_cons.mp opened
        rw [scanFrom_close]
        exact ih later others (List.forall_mem_cons.mpr ⟨⟨here rfl, first⟩,
          List.forall_mem_cons.mpr ⟨⟨first, here rfl⟩, known⟩⟩)

/-- A partner is in the table. -/
theorem mem_of_partner? {table : Brackets} {i j : Nat} (paired : table.partner? i = some j) :
    (i, j) ∈ table := by
  obtain ⟨front, back, split, _⟩ := List.lookup_eq_some_iff.mp paired
  rw [split]
  exact List.mem_append_right _ List.mem_cons_self

/-- A partner is a position of the tape. -/
theorem partner?_lt_length {tape : Tape} {i j : Nat} (paired : (ofTape tape).partner? i = some j) :
    j < tape.length := by
  refine (forall_mem_scanFrom (P := (· < tape.length)) ?_ (List.forall_mem_nil _)
    (List.forall_mem_nil _) (i, j) (mem_of_partner? paired)).2
  intro position b found _
  rw [Nat.zero_add]
  exact (List.getElem?_eq_some_iff.mp found).1

end Brackets

end TapeSwarm
