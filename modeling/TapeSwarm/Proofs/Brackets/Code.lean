import TapeSwarm.Proofs.Outline.Table

/-!
# The brackets of a tape's code

Dropping the filler of a tape moves every instruction to its *rank*, the number of instructions
before it. The bracket table goes along: the scan of the code does at the rank of an instruction
what the scan of the tape does at the instruction, and passes over filler.

Results:
1. `scan_code`: the scan of the code is the scan of the tape, by ranks.
2. `partner?_code`: so are the partners of brackets, and the lack of a partner.
3. `exists_partner?_of_close`: where no bracket is stray, every closing bracket has a partner.
-/

namespace TapeSwarm

namespace Tape

/-! ## Ranks -/

/-- How many instructions a tape has before a position. Positions beyond the end of the tape are as
far beyond the end of its code. -/
def rank : Tape → Nat → Nat
  | [], i => i
  | _ :: _, 0 => 0
  | b :: rest, i + 1 => if isInstruction b then rank rest i + 1 else rank rest i

/-- A position at which a tape has an instruction. -/
def HasInstruction (tape : Tape) (i : Nat) : Prop :=
  ∃ b, tape[i]? = some b ∧ isInstruction b = true

theorem rank_zero (tape : Tape) : tape.rank 0 = 0 := by
  cases tape <;> rfl

theorem rank_cons_of_instruction {b : UInt8} (instruction : isInstruction b = true) (rest : Tape)
    (i : Nat) : rank (b :: rest) (i + 1) = rank rest i + 1 := by
  rw [rank, if_pos instruction]

theorem rank_cons_of_filler {b : UInt8} (filler : isInstruction b = false) (rest : Tape) (i : Nat) :
    rank (b :: rest) (i + 1) = rank rest i := by
  rw [rank, filler, if_neg Bool.false_ne_true]

theorem code_cons_of_instruction {b : UInt8} (instruction : isInstruction b = true) (rest : Tape) :
    code (b :: rest) = b :: code rest :=
  List.filter_cons_of_pos instruction

theorem code_cons_of_filler {b : UInt8} (filler : isInstruction b = false) (rest : Tape) :
    code (b :: rest) = code rest :=
  List.filter_cons_of_neg (Bool.eq_false_iff.mp filler)

/-- An instruction takes a place in the code. -/
theorem rank_succ_of_instruction {tape : Tape} {i : Nat} {b : UInt8} (found : tape[i]? = some b)
    (instruction : isInstruction b = true) : tape.rank (i + 1) = tape.rank i + 1 := by
  induction tape generalizing i with
  | nil => rfl
  | cons c rest ih =>
    cases i with
    | zero =>
      cases found
      rw [rank_cons_of_instruction instruction, rank_zero, rank_zero]
    | succ i =>
      have later : rest[i]? = some b := found
      cases kept : isInstruction c with
      | true => rw [rank_cons_of_instruction kept, rank_cons_of_instruction kept, ih later]
      | false => rw [rank_cons_of_filler kept, rank_cons_of_filler kept, ih later]

/-- Filler takes none. -/
theorem rank_succ_of_filler {tape : Tape} {i : Nat} {b : UInt8} (found : tape[i]? = some b)
    (filler : isInstruction b = false) : tape.rank (i + 1) = tape.rank i := by
  induction tape generalizing i with
  | nil => cases found
  | cons c rest ih =>
    cases i with
    | zero =>
      cases found
      rw [rank_cons_of_filler filler, rank_zero, rank_zero]
    | succ i =>
      have later : rest[i]? = some b := found
      cases kept : isInstruction c with
      | true => rw [rank_cons_of_instruction kept, rank_cons_of_instruction kept, ih later]
      | false => rw [rank_cons_of_filler kept, rank_cons_of_filler kept, ih later]

theorem rank_length_add (tape : Tape) (more : Nat) :
    tape.rank (tape.length + more) = tape.code.length + more := by
  induction tape with
  | nil => rfl
  | cons c rest ih =>
    rw [List.length_cons, Nat.add_right_comm]
    cases kept : isInstruction c with
    | true =>
      rw [rank_cons_of_instruction kept, code_cons_of_instruction kept, ih, List.length_cons,
        Nat.add_right_comm]
    | false => rw [rank_cons_of_filler kept, code_cons_of_filler kept, ih]

/-- The code has every instruction at its rank. -/
theorem getElem?_code_rank {tape : Tape} {i : Nat} {b : UInt8} (found : tape[i]? = some b)
    (instruction : isInstruction b = true) : tape.code[tape.rank i]? = some b := by
  induction tape generalizing i with
  | nil => cases found
  | cons c rest ih =>
    cases i with
    | zero =>
      cases found
      rw [code_cons_of_instruction instruction, rank_zero, List.getElem?_cons_zero]
    | succ i =>
      have later : rest[i]? = some b := found
      cases kept : isInstruction c with
      | true =>
        rw [rank_cons_of_instruction kept, code_cons_of_instruction kept, List.getElem?_cons_succ,
          ih later]
      | false => rw [rank_cons_of_filler kept, code_cons_of_filler kept, ih later]

/-- Whatever comes behind an instruction has a higher rank. -/
theorem HasInstruction.rank_lt {tape : Tape} {i j : Nat} (here : tape.HasInstruction i)
    (before : i < j) : tape.rank i < tape.rank j := by
  obtain ⟨b, found, instruction⟩ := here
  induction tape generalizing i j with
  | nil => cases found
  | cons c rest ih =>
    obtain ⟨j, rfl⟩ := Nat.exists_eq_add_one_of_ne_zero (Nat.ne_zero_of_lt before)
    cases i with
    | zero =>
      cases found
      rw [rank_cons_of_instruction instruction, rank_zero]
      exact Nat.succ_pos _
    | succ i =>
      have later := ih (Nat.lt_of_succ_lt_succ before) found
      cases kept : isInstruction c with
      | true =>
        rw [rank_cons_of_instruction kept, rank_cons_of_instruction kept]
        exact Nat.succ_lt_succ later
      | false =>
        rw [rank_cons_of_filler kept, rank_cons_of_filler kept]
        exact later

/-- Instructions of the same rank are the same. -/
theorem HasInstruction.eq_of_rank_eq {tape : Tape} {i j : Nat} (here : tape.HasInstruction i)
    (there : tape.HasInstruction j) (same : tape.rank i = tape.rank j) : i = j := by
  rcases Nat.lt_trichotomy i j with before | equal | behind
  · exact absurd same (Nat.ne_of_lt (here.rank_lt before))
  · exact equal
  · exact absurd same.symm (Nat.ne_of_lt (there.rank_lt behind))

end Tape

/-! ## The scan of the code -/

/-- Brackets are instructions. -/
theorem isInstruction_of_isBracket {b : UInt8} (bracket : isBracket b = true) :
    isInstruction b = true := by
  rcases plain_or_bracket b with plain | rfl | rfl
  · exact absurd bracket (by simp [plain])
  · exact isInstruction_byte _
  · exact isInstruction_byte _

theorem isBracket_of_filler {b : UInt8} (filler : isInstruction b = false) :
    isBracket b = false := by
  cases bracket : isBracket b with
  | false => rfl
  | true => simp [isInstruction_of_isBracket bracket] at filler

namespace Brackets

/-- A table with its positions renamed. -/
def rename (f : Nat → Nat) (table : Brackets) : Brackets :=
  table.map (Prod.map f f)

/-- What a scan found, with the positions renamed. -/
def Scan.rename (f : Nat → Nat) (scan : Scan) : Scan :=
  ⟨scan.table.rename f, scan.stray.map f⟩

/-- From any position of a tape on, the scan of the code does by ranks what the scan of the tape
does. -/
theorem scanFrom_code {tape rest : Tape} {i : Nat} (bytes : tape.drop i = rest)
    (waiting : List Nat) (table : Brackets) :
    scanFrom (tape.rank i) (waiting.map tape.rank) (table.rename tape.rank) rest.code =
      (scanFrom i waiting table rest).rename tape.rank := by
  induction rest generalizing i waiting table with
  | nil => rfl
  | cons b rest ih =>
    have found := getElem?_of_drop_eq_cons bytes
    have behind := drop_succ_of_drop_eq_cons bytes
    cases kept : isInstruction b with
    | false =>
      have onward := ih behind waiting table
      rw [Tape.rank_succ_of_filler found kept] at onward
      rw [Tape.code_cons_of_filler kept, scanFrom_plain (isBracket_of_filler kept), onward]
    | true =>
      have next := Tape.rank_succ_of_instruction found kept
      rw [Tape.code_cons_of_instruction kept]
      rcases plain_or_bracket b with plain | rfl | rfl
      · rw [scanFrom_plain plain, scanFrom_plain plain, ← next]
        exact ih behind waiting table
      · rw [scanFrom_open, scanFrom_open, ← next]
        exact ih behind (i :: waiting) table
      · cases waiting with
        | nil => rfl
        | cons start waiting =>
          rw [List.map_cons, scanFrom_close, scanFrom_close, ← next]
          exact ih behind waiting ((i, start) :: (start, i) :: table)

/-- The scan of the code is the scan of the tape, by ranks. -/
theorem scan_code (tape : Tape) : scan tape.code = (scan tape).rename tape.rank := by
  have all : tape.drop 0 = tape := List.drop_zero
  have whole := scanFrom_code all [] []
  rwa [Tape.rank_zero] at whole

/-! ## Partners -/

/-- Every entry of a table is about instructions of the tape. -/
theorem hasInstruction_of_mem_ofTape {tape : Tape} {pair : Nat × Nat}
    (member : pair ∈ ofTape tape) : tape.HasInstruction pair.1 ∧ tape.HasInstruction pair.2 := by
  refine forall_mem_scanFrom (P := tape.HasInstruction) ?_ (List.forall_mem_nil _)
    (List.forall_mem_nil _) pair member
  intro j b found bracket
  rw [Nat.zero_add]
  exact ⟨b, found, isInstruction_of_isBracket bracket⟩

theorem lookup_rename {f : Nat → Nat} {table : Brackets} {position : Nat}
    (alone : ∀ pair ∈ table, f position = f pair.1 → position = pair.1) :
    (table.rename f).lookup (f position) = (table.lookup position).map f := by
  induction table with
  | nil => rfl
  | cons pair table ih =>
    obtain ⟨key, value⟩ := pair
    obtain ⟨first, others⟩ := List.forall_mem_cons.mp alone
    show List.lookup (f position) ((f key, f value) :: rename f table) = _
    rw [lookup_cons_eq_ite, lookup_cons_eq_ite, ih others]
    by_cases same : position = key
    · rw [if_pos same, if_pos (congrArg f same), Option.map_some]
    · rw [if_neg same, if_neg fun equal => same (first equal)]

/-- The partner of an instruction of the code is the partner of the same instruction of the tape. -/
theorem partner?_code {tape : Tape} {i : Nat} (here : tape.HasInstruction i) :
    (ofTape tape.code).partner? (tape.rank i) = ((ofTape tape).partner? i).map tape.rank := by
  rw [ofTape, scan_code]
  refine lookup_rename fun pair member same => ?_
  exact here.eq_of_rank_eq (hasInstruction_of_mem_ofTape member).1 same

/-- The partner of a bracket is a bracket. -/
theorem hasInstruction_of_partner? {tape : Tape} {i j : Nat}
    (paired : (ofTape tape).partner? i = some j) : tape.HasInstruction j :=
  (hasInstruction_of_mem_ofTape (mem_of_partner? paired)).2

/-! ## Closing brackets -/

/-- A scan forgets no position it knows. -/
theorem isSome_lookup_scanFrom {i position : Nat} {waiting : List Nat} {table : Brackets}
    {tape : Tape} (known : (table.lookup position).isSome) :
    ((scanFrom i waiting table tape).table.lookup position).isSome := by
  induction tape generalizing i waiting table with
  | nil => exact known
  | cons b rest ih =>
    rcases plain_or_bracket b with plain | rfl | rfl
    · rw [scanFrom_plain plain]
      exact ih known
    · rw [scanFrom_open]
      exact ih known
    · cases waiting with
      | nil => exact known
      | cons start waiting =>
        rw [scanFrom_close]
        refine ih ?_
        rw [lookup_cons_eq_ite, lookup_cons_eq_ite]
        split
        · rfl
        · split
          · rfl
          · exact known

/-- A scan that meets no stray bracket enters every closing one. -/
theorem isSome_lookup_of_close {i j : Nat} {waiting : List Nat} {table : Brackets} {tape : Tape}
    (unstopped : (scanFrom i waiting table tape).stray = none)
    (found : tape[j]? = some closeByte) :
    ((scanFrom i waiting table tape).table.lookup (i + j)).isSome := by
  induction tape generalizing i j waiting table with
  | nil => cases found
  | cons b rest ih =>
    have shift (j : Nat) : i + (j + 1) = i + 1 + j := by omega
    rcases plain_or_bracket b with plain | rfl | rfl
    · rw [scanFrom_plain plain] at unstopped ⊢
      cases j with
      | zero => cases found; exact absurd rfl (ne_closeByte plain)
      | succ j => rw [shift]; exact ih unstopped found
    · rw [scanFrom_open] at unstopped ⊢
      cases j with
      | zero => cases found
      | succ j => rw [shift]; exact ih unstopped found
    · cases waiting with
      | nil => cases unstopped
      | cons start waiting =>
        rw [scanFrom_close] at unstopped ⊢
        cases j with
        | zero =>
          refine isSome_lookup_scanFrom ?_
          rw [lookup_cons_eq_ite, if_pos (Nat.add_zero i)]
          rfl
        | succ j => rw [shift]; exact ih unstopped found

/-- Where no bracket is stray, every closing bracket has a partner. -/
theorem exists_partner?_of_close {tape : Tape} (matched : tape.NoStray) {i : Nat}
    (found : tape[i]? = some closeByte) : ∃ j, (ofTape tape).partner? i = some j := by
  obtain ⟨outline, rfl, _⟩ := existsUnique_outline matched
  have unstopped : (scan outline.tape).stray = none := by rw [scan_outline]
  have known := isSome_lookup_of_close unstopped found
  rw [Nat.zero_add] at known
  exact Option.isSome_iff_exists.mp known

end Brackets

end TapeSwarm
