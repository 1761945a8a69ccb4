import TapeSwarm.Proofs.Outline.Basic

/-!
# The bracket table of an outline

A scan that comes to a block passes it with the open brackets it came with, and has entered the
pairs of the block's loops. So the table of a tape knows every loop of its outline, and no gate.

`Block.Placed` says that a block stands in a tape at a position, and that a table knows its loops;
this is all that running the block needs to know about the table.

Results:
1. `scan_outline`: the table of an outline's tape, and that no bracket of it is stray.
2. `placed_outline`: the outline stands in its tape.
-/

namespace TapeSwarm

/-- The pairs of a block that starts at a position, the ones entered last in front. -/
def Block.pairs : Block → Nat → Brackets
  | .skip, _ => []
  | .act _ rest, i => rest.pairs (i + 1)
  | .loop body rest, i =>
    rest.pairs (i + body.length + 2) ++
      (i + body.length + 1, i) :: (i, i + body.length + 1) :: body.pairs (i + 1)

/-- The pairs of an outline that starts at a position, the ones entered last in front. -/
def Outline.pairs : Outline → Nat → Brackets
  | .last block, i => block.pairs i
  | .gate block rest, i => rest.pairs (i + block.length + 1) ++ block.pairs i

/-- A block stands in a tape at a position, and a table of brackets knows its loops. -/
def Block.Placed (tape : Tape) (table : Brackets) : Block → Nat → Prop
  | .skip, _ => True
  | .act byte rest, i => tape[i]? = some byte.val ∧ rest.Placed tape table (i + 1)
  | .loop body rest, i =>
    tape[i]? = some openByte ∧ table.partner? i = some (i + body.length + 1) ∧
    body.Placed tape table (i + 1) ∧
    tape[i + body.length + 1]? = some closeByte ∧
    table.partner? (i + body.length + 1) = some i ∧
    rest.Placed tape table (i + body.length + 2)

/-- An outline stands at the end of a tape from a position on, and a table of brackets knows its
loops and not its gates. -/
def Outline.Placed (tape : Tape) (table : Brackets) : Outline → Nat → Prop
  | .last block, i => block.Placed tape table i ∧ tape.length = i + block.length
  | .gate block rest, i =>
    block.Placed tape table i ∧
    tape[i + block.length]? = some openByte ∧ table.partner? (i + block.length) = none ∧
    rest.Placed tape table (i + block.length + 1)

/-! ## The scan -/

namespace Brackets

/-- A scan passes a block and enters the block's pairs. -/
theorem scanFrom_block (block : Block) (i : Nat) (waiting : List Nat) (table : Brackets)
    (rest : Tape) :
    scanFrom i waiting table (block.tape ++ rest) =
      scanFrom (i + block.length) waiting (block.pairs i ++ table) rest := by
  induction block generalizing i waiting table rest with
  | skip => rfl
  | act byte more ih =>
    rw [Block.tape, List.cons_append, scanFrom_plain byte.property, ih, Block.pairs, Block.length]
    rw [Nat.add_assoc, Nat.add_comm 1]
  | loop body more ihBody ihMore =>
    have split : (Block.loop body more).tape ++ rest =
        openByte :: (body.tape ++ closeByte :: (more.tape ++ rest)) := by
      simp [Block.tape]
    have closing : i + 1 + body.length = i + body.length + 1 := by omega
    have ending : i + body.length + 1 + 1 + more.length = i + (Block.loop body more).length := by
      simp only [Block.length]
      omega
    rw [split, scanFrom_open, ihBody, closing, scanFrom_close, ihMore, ending]
    simp [Block.pairs]

/-- The scan of an outline from any position on. -/
theorem scanFrom_outline (outline : Outline) (i : Nat) (waiting : List Nat) (table : Brackets) :
    scanFrom i waiting table outline.tape = ⟨outline.pairs i ++ table, none⟩ := by
  induction outline generalizing i waiting table with
  | last block =>
    have scanned := scanFrom_block block i waiting table []
    rw [List.append_nil] at scanned
    rw [Outline.tape, scanned]
    rfl
  | gate block rest ih =>
    rw [Outline.tape, scanFrom_block, scanFrom_open, ih, Outline.pairs, List.append_assoc]

/-- The scan of an outline meets no stray bracket. -/
theorem scan_outline (outline : Outline) : scan outline.tape = ⟨outline.pairs 0, none⟩ := by
  rw [scan, scanFrom_outline, List.append_nil]

end Brackets

/-! ## What the table knows -/

theorem Brackets.lookup_cons_eq_ite (key value position : Nat) (table : Brackets) :
    List.lookup position ((key, value) :: table) =
      if position = key then some value else table.lookup position := by
  rw [List.lookup_cons]
  by_cases same : position = key
  · simp [same]
  · simp [same, beq_eq_false_iff_ne.mpr same]

/-- The pairs of a block are about positions within the block. -/
theorem Block.lookup_pairs_eq_none (block : Block) {i position : Nat}
    (outside : position < i ∨ i + block.length ≤ position) :
    (block.pairs i).lookup position = none := by
  induction block generalizing i with
  | skip => rfl
  | act byte rest ih =>
    simp only [length] at outside
    exact ih (by omega)
  | loop body rest ihBody ihRest =>
    simp only [length] at outside
    rw [pairs, List.lookup_append, ihRest (by omega), Brackets.lookup_cons_eq_ite,
      if_neg (by omega), Brackets.lookup_cons_eq_ite, if_neg (by omega), ihBody (by omega)]
    rfl

theorem Outline.lookup_pairs_eq_none (outline : Outline) {i position : Nat}
    (outside : position < i) : (outline.pairs i).lookup position = none := by
  induction outline generalizing i with
  | last block => exact block.lookup_pairs_eq_none (.inl outside)
  | gate block rest ih =>
    rw [pairs, List.lookup_append, ih (by omega), block.lookup_pairs_eq_none (.inl outside)]
    rfl

theorem getElem?_of_drop_eq_cons {tape rest : Tape} {i : Nat} {b : UInt8}
    (bytes : tape.drop i = b :: rest) : tape[i]? = some b := by
  have first : (tape.drop i)[0]? = some b := by rw [bytes]; rfl
  rwa [List.getElem?_drop] at first

theorem drop_succ_of_drop_eq_cons {tape rest : Tape} {i : Nat} {b : UInt8}
    (bytes : tape.drop i = b :: rest) : tape.drop (i + 1) = rest := by
  rw [← List.drop_drop, bytes, List.drop_one, List.tail_cons]

theorem drop_add_of_drop_eq_append {tape front rest : Tape} {i : Nat}
    (bytes : tape.drop i = front ++ rest) : tape.drop (i + front.length) = rest := by
  rw [← List.drop_drop, bytes, List.drop_left]

/-- A block is placed where its bytes are, if the table agrees with its pairs there. -/
theorem Block.placed_of_agree {tape rest : Tape} {table : Brackets} {block : Block} {i : Nat}
    (bytes : tape.drop i = block.tape ++ rest)
    (agree : ∀ position, i ≤ position → position < i + block.length →
      table.partner? position = (block.pairs i).lookup position) :
    block.Placed tape table i := by
  induction block generalizing i rest with
  | skip => trivial
  | act byte more ih =>
    refine ⟨getElem?_of_drop_eq_cons bytes, ?_⟩
    refine ih (drop_succ_of_drop_eq_cons bytes) ?_
    intro position from_ upTo
    exact agree position (by omega) (by simp only [length]; omega)
  | loop body more ihBody ihMore =>
    have split : (Block.loop body more).tape ++ rest =
        openByte :: (body.tape ++ closeByte :: (more.tape ++ rest)) := by
      simp [Block.tape]
    rw [split] at bytes
    have inside : tape.drop (i + 1) = body.tape ++ closeByte :: (more.tape ++ rest) :=
      drop_succ_of_drop_eq_cons bytes
    have closing : tape.drop (i + body.length + 1) = closeByte :: (more.tape ++ rest) := by
      have passed := drop_add_of_drop_eq_append inside
      rwa [body.length_tape, Nat.add_right_comm] at passed
    have behind : tape.drop (i + body.length + 2) = more.tape ++ rest :=
      drop_succ_of_drop_eq_cons closing
    -- of the three parts of the pairs, each position is found in one only
    have known : ∀ position, i ≤ position → position < i + (body.length + more.length + 2) →
        table.partner? position =
          ((more.pairs (i + body.length + 2)).lookup position).or
            (if position = i + body.length + 1 then some i
              else if position = i then some (i + body.length + 1)
              else (body.pairs (i + 1)).lookup position) := by
      intro position from_ upTo
      rw [agree position from_ upTo, pairs, List.lookup_append, Brackets.lookup_cons_eq_ite,
        Brackets.lookup_cons_eq_ite]
    refine ⟨getElem?_of_drop_eq_cons bytes, ?_, ihBody inside ?_,
      getElem?_of_drop_eq_cons closing, ?_, ihMore behind ?_⟩
    · rw [known i (by omega) (by omega), more.lookup_pairs_eq_none (.inl (by omega)),
        if_neg (by omega), if_pos rfl, Option.none_or]
    · intro position from_ upTo
      rw [known position (by omega) (by omega), more.lookup_pairs_eq_none (.inl (by omega)),
        if_neg (by omega), if_neg (by omega), Option.none_or]
    · rw [known _ (by omega) (by omega), more.lookup_pairs_eq_none (.inl (by omega)), if_pos rfl,
        Option.none_or]
    · intro position from_ upTo
      rw [known position (by omega) (by omega), if_neg (by omega), if_neg (by omega),
        body.lookup_pairs_eq_none (.inr (by omega)), Option.or_none]

/-- An outline is placed where its bytes are, if the table agrees with its pairs from there on. -/
theorem Outline.placed_of_agree {tape : Tape} {table : Brackets} {outline : Outline} {i : Nat}
    (bytes : tape.drop i = outline.tape) (within : i ≤ tape.length)
    (agree : ∀ position, i ≤ position →
      table.partner? position = (outline.pairs i).lookup position) :
    outline.Placed tape table i := by
  induction outline generalizing i with
  | last block =>
    have whole : tape.drop i = block.tape ++ [] := by
      rw [bytes, List.append_nil, Outline.tape]
    refine ⟨Block.placed_of_agree whole ?_, ?_⟩
    · exact fun position from_ _ => agree position from_
    · have lengths := congrArg List.length bytes
      rw [List.length_drop, Outline.tape, block.length_tape] at lengths
      omega
  | gate block rest ih =>
    have gate : tape.drop (i + block.length) = openByte :: rest.tape := by
      have passed := drop_add_of_drop_eq_append bytes
      rwa [block.length_tape] at passed
    have behind : tape.drop (i + block.length + 1) = rest.tape :=
      drop_succ_of_drop_eq_cons gate
    have gateByte := getElem?_of_drop_eq_cons gate
    have gateInside : i + block.length < tape.length :=
      (List.getElem?_eq_some_iff.mp gateByte).1
    refine ⟨Block.placed_of_agree bytes ?_, gateByte, ?_, ih behind gateInside ?_⟩
    · intro position from_ upTo
      rw [agree position from_, pairs, List.lookup_append, rest.lookup_pairs_eq_none (by omega),
        Option.none_or]
    · rw [agree _ (by omega), pairs, List.lookup_append, rest.lookup_pairs_eq_none (by omega),
        block.lookup_pairs_eq_none (.inr (Nat.le_refl _))]
      rfl
    · intro position from_
      rw [agree position (by omega), pairs, List.lookup_append,
        block.lookup_pairs_eq_none (.inr (by omega)), Option.or_none]

/-- An outline stands in its tape, and the tape's bracket table knows its loops, not its gates. -/
theorem placed_outline (outline : Outline) :
    outline.Placed outline.tape (Brackets.ofTape outline.tape) 0 := by
  refine Outline.placed_of_agree (List.drop_zero) (Nat.zero_le _) fun position _ => ?_
  rw [Brackets.ofTape, Brackets.scan_outline]
  rfl

end TapeSwarm
