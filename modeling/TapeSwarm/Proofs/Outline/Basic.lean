import TapeSwarm.Proofs.Machine.Steps
import Mathlib.Logic.ExistsUnique

/-!
# Outlines

The structure of a tape that closes no bracket it has not opened.

A *block* is a stretch in which every bracket has its partner: bytes that are no brackets, and loops
around smaller blocks. An *outline* is a row of blocks with a *gate* between neighbours: an opening
bracket that is never closed. There are no gates within loops, since a bracket within a matched pair
is matched itself; the two types leave no way to write one.

`Reading` takes a tape apart from its right end. What has been read so far may still need opening
brackets for some of its closing ones, so a reading is a list of blocks that wait for theirs, and
the outline behind them.

Results:
1. `Reading.tape_ofTape`: no byte is lost in reading.
2. `Reading.closed_length_le_iff`: waiting closing brackets are those that outrun the opening ones.
3. `existsUnique_outline`: a tape in which no `]` is stray has exactly one outline.
-/

namespace TapeSwarm

/-- A stretch of a tape in which every bracket has its partner. -/
inductive Block where
  | skip
  | act (byte : PlainByte) (rest : Block)
  | loop (body rest : Block)
  deriving DecidableEq

/-- Blocks with unmatched opening brackets between them. -/
inductive Outline where
  | last (block : Block)
  | gate (block : Block) (rest : Outline)
  deriving DecidableEq

/-- No beginning of the tape holds more closing brackets than opening ones. -/
def Tape.NoStray (tape : Tape) : Prop :=
  ∀ front : Tape, front <+: tape → front.count closeByte ≤ front.count openByte

/-! ## From outlines to tapes -/

/-- The tape that a block stands for. -/
def Block.tape : Block → Tape
  | .skip => []
  | .act byte rest => byte.val :: rest.tape
  | .loop body rest => openByte :: (body.tape ++ closeByte :: rest.tape)

/-- How many bytes a block has. -/
def Block.length : Block → Nat
  | .skip => 0
  | .act _ rest => rest.length + 1
  | .loop body rest => body.length + rest.length + 2

/-- One block after another. -/
def Block.append : Block → Block → Block
  | .skip, other => other
  | .act byte rest, other => .act byte (rest.append other)
  | .loop body rest, other => .loop body (rest.append other)

/-- The tape that an outline stands for. -/
def Outline.tape : Outline → Tape
  | .last block => block.tape
  | .gate block rest => block.tape ++ openByte :: rest.tape

/-- An outline with its first block changed. -/
def Outline.mapFirst (f : Block → Block) : Outline → Outline
  | .last block => .last (f block)
  | .gate block rest => .gate (f block) rest

namespace Block

theorem length_tape (block : Block) : block.tape.length = block.length := by
  induction block with
  | skip => rfl
  | act byte rest ih => simp only [tape, length, List.length_cons, ih]
  | loop body rest ihBody ihRest =>
    simp only [tape, length, List.length_cons, List.length_append, ihBody, ihRest]
    omega

theorem append_skip (block : Block) : block.append .skip = block := by
  induction block with
  | skip => rfl
  | act byte rest ih => rw [append, ih]
  | loop body rest _ ih => rw [append, ih]

end Block

/-! ## Reading a tape -/

/-- What has been read of a tape from its right end: the blocks before each closing bracket that is
still without a partner, and the outline behind the last of these. -/
structure Reading where
  closed : List Block
  rest : Outline

namespace Reading

/-- The tape that was read. -/
def tape (reading : Reading) : Tape :=
  reading.closed.flatMap (fun block => block.tape ++ [closeByte]) ++ reading.rest.tape

/-- Changes the block that the next byte on the left belongs to. -/
def mapFirst (f : Block → Block) : Reading → Reading
  | ⟨[], rest⟩ => ⟨[], rest.mapFirst f⟩
  | ⟨block :: more, rest⟩ => ⟨f block :: more, rest⟩

/-- Reads an opening bracket: a loop if a closing one waits for it, else a gate. -/
def addOpen : Reading → Reading
  | ⟨[], rest⟩ => ⟨[], .gate .skip rest⟩
  | ⟨body :: more, rest⟩ => mapFirst (.loop body) ⟨more, rest⟩

/-- Reads one more byte on the left. -/
def add (b : UInt8) (reading : Reading) : Reading :=
  if plain : isBracket b = false then reading.mapFirst (.act ⟨b, plain⟩)
  else if b = closeByte then { reading with closed := .skip :: reading.closed }
  else reading.addOpen

/-- Reads a whole tape. -/
def ofTape (tape : Tape) : Reading :=
  tape.foldr add ⟨[], .last .skip⟩

theorem ofTape_cons (b : UInt8) (tape : Tape) : ofTape (b :: tape) = (ofTape tape).add b := rfl

theorem add_plain {b : UInt8} (plain : isBracket b = false) (reading : Reading) :
    reading.add b = reading.mapFirst (.act ⟨b, plain⟩) := by
  rw [add, dif_pos plain]

theorem add_close (reading : Reading) :
    reading.add closeByte = { reading with closed := .skip :: reading.closed } := rfl

theorem add_open (reading : Reading) : reading.add openByte = reading.addOpen := rfl

theorem mapFirst_id (reading : Reading) : reading.mapFirst id = reading := by
  obtain ⟨closed, rest⟩ := reading
  cases closed with
  | nil =>
    cases rest with
    | last block => rfl
    | gate block rest => rfl
  | cons block more => rfl

theorem mapFirst_mapFirst (f g : Block → Block) (reading : Reading) :
    (reading.mapFirst g).mapFirst f = reading.mapFirst fun block => f (g block) := by
  obtain ⟨closed, rest⟩ := reading
  cases closed with
  | nil =>
    cases rest with
    | last block => rfl
    | gate block rest => rfl
  | cons block more => rfl

/-- A first block that gains some bytes in front adds them to the tape. -/
theorem tape_mapFirst {f : Block → Block} (front : Tape)
    (added : ∀ block, (f block).tape = front ++ block.tape) (reading : Reading) :
    (reading.mapFirst f).tape = front ++ reading.tape := by
  obtain ⟨closed, rest⟩ := reading
  cases closed with
  | nil =>
    cases rest with
    | last block => exact added block
    | gate block rest =>
      show (f block).tape ++ _ = front ++ (block.tape ++ _)
      rw [added, List.append_assoc]
  | cons block more =>
    simp only [mapFirst, tape, List.flatMap_cons, added, List.append_assoc]

theorem tape_add (b : UInt8) (reading : Reading) : (reading.add b).tape = b :: reading.tape := by
  rcases plain_or_bracket b with plain | rfl | rfl
  · rw [add_plain plain]
    exact tape_mapFirst [b] (fun _ => rfl) reading
  · rw [add_open]
    obtain ⟨closed, rest⟩ := reading
    cases closed with
    | nil => rfl
    | cons body more =>
      rw [addOpen, tape_mapFirst (openByte :: (body.tape ++ [closeByte]))
        (fun block => by simp [Block.tape])]
      simp [tape]
  · rw [add_close]
    rfl

/-- No byte is lost in reading. -/
theorem tape_ofTape (tape : Tape) : (ofTape tape).tape = tape := by
  induction tape with
  | nil => rfl
  | cons b rest ih => rw [ofTape_cons, tape_add, ih]

/-! ## Stray brackets -/

theorem closed_length_mapFirst (f : Block → Block) (reading : Reading) :
    (reading.mapFirst f).closed.length = reading.closed.length := by
  obtain ⟨closed, rest⟩ := reading
  cases closed with
  | nil => rfl
  | cons block more => rfl

theorem closed_length_addOpen (reading : Reading) :
    reading.addOpen.closed.length = reading.closed.length - 1 := by
  obtain ⟨closed, rest⟩ := reading
  cases closed with
  | nil => rfl
  | cons body more => exact closed_length_mapFirst _ _

theorem forall_prefix_cons {b : UInt8} {rest : Tape} {bound : Tape → Prop} :
    (∀ front : Tape, front <+: b :: rest → bound front) ↔
      bound [] ∧ ∀ front : Tape, front <+: rest → bound (b :: front) := by
  simp only [List.prefix_cons_iff]
  constructor
  · intro all
    exact ⟨all [] (.inl rfl), fun front isFront => all _ (.inr ⟨front, rfl, isFront⟩)⟩
  · rintro ⟨none, some⟩ front (rfl | ⟨shorter, rfl, isFront⟩)
    · exact none
    · exact some shorter isFront

/-- The closing brackets that wait for a partner are those by which some beginning of the tape has
more closing brackets than opening ones. -/
theorem closed_length_le_iff (tape : Tape) (depth : Nat) :
    (ofTape tape).closed.length ≤ depth ↔
      ∀ front : Tape, front <+: tape →
        front.count closeByte ≤ front.count openByte + depth := by
  induction tape generalizing depth with
  | nil =>
    constructor
    · intro _ front isFront
      rw [List.prefix_nil.mp isFront]
      exact Nat.zero_le _
    · exact fun _ => Nat.zero_le _
  | cons b rest ih =>
    -- an opening bracket pays for one more closing one in the rest, a closing one takes that away
    rw [ofTape_cons, forall_prefix_cons]
    rcases plain_or_bracket b with plain | rfl | rfl
    · rw [add_plain plain, closed_length_mapFirst, ih]
      simp [ne_openByte plain, ne_closeByte plain]
    · rw [add_open, closed_length_addOpen, Nat.sub_le_iff_le_add, ih]
      have other : openByte ≠ closeByte := by decide
      simp [List.count_cons_of_ne other, Nat.add_assoc, Nat.add_comm 1 depth]
    · rw [add_close, List.length_cons]
      have other : closeByte ≠ openByte := by decide
      simp only [List.count_cons_self, List.count_cons_of_ne other]
      cases depth with
      | zero =>
        constructor
        · exact fun impossible => absurd impossible (Nat.not_succ_le_zero _)
        · rintro ⟨_, all⟩
          exact absurd (all [] List.nil_prefix) (Nat.not_succ_le_zero _)
      | succ depth =>
        rw [Nat.succ_le_succ_iff, ih]
        simp [← Nat.add_assoc]

/-- Nothing waits for a partner exactly if no bracket is stray. -/
theorem closed_eq_nil_iff (tape : Tape) : (ofTape tape).closed = [] ↔ tape.NoStray := by
  rw [← List.length_eq_zero_iff, ← Nat.le_zero, closed_length_le_iff]
  rfl

instance : DecidablePred Tape.NoStray :=
  fun tape => decidable_of_iff _ (closed_eq_nil_iff tape)

/-! ## One outline only -/

/-- A block in front of a tape is read as a block in front of what the tape is read as. -/
theorem ofTape_append (block : Block) (tape : Tape) :
    ofTape (block.tape ++ tape) = (ofTape tape).mapFirst block.append := by
  induction block generalizing tape with
  | skip =>
    show ofTape tape = (ofTape tape).mapFirst id
    rw [mapFirst_id]
  | act byte rest ih =>
    rw [Block.tape, List.cons_append, ofTape_cons, ih, add_plain byte.property, mapFirst_mapFirst]
    rfl
  | loop body rest ihBody ihRest =>
    have split : (Block.loop body rest).tape ++ tape =
        openByte :: (body.tape ++ closeByte :: (rest.tape ++ tape)) := by
      simp [Block.tape]
    rw [split, ofTape_cons, ihBody, ofTape_cons, ihRest, add_close, add_open]
    show mapFirst (.loop (body.append .skip)) _ = _
    rw [Block.append_skip, mapFirst_mapFirst]
    rfl

/-- An outline is what its tape is read as. -/
theorem ofTape_outline (outline : Outline) : ofTape outline.tape = ⟨[], outline⟩ := by
  induction outline with
  | last block =>
    have read := ofTape_append block []
    rw [List.append_nil] at read
    rw [Outline.tape, read]
    show Reading.mk [] (.last (block.append .skip)) = _
    rw [Block.append_skip]
  | gate block rest ih =>
    rw [Outline.tape, ofTape_append, ofTape_cons, ih]
    show Reading.mk [] (.gate (block.append .skip) rest) = _
    rw [Block.append_skip]

end Reading

/-- A tape in which no bracket is stray has exactly one outline. -/
theorem existsUnique_outline {tape : Tape} (matched : tape.NoStray) :
    ∃! outline : Outline, outline.tape = tape := by
  have nothing := (Reading.closed_eq_nil_iff tape).mpr matched
  refine ⟨(Reading.ofTape tape).rest, ?_, ?_⟩
  · have whole := Reading.tape_ofTape tape
    simpa [Reading.tape, nothing] using whole
  · rintro outline rfl
    rw [Reading.ofTape_outline]

end TapeSwarm
