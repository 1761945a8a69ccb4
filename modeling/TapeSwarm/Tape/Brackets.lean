import TapeSwarm.Tape.Basic

/-!
The bracket table of a tape.

One scan from the left pairs every `[` with its `]` and back. A `]` that closes nothing stops the
scan, so that whatever follows it stays unpaired; where the scan stopped is part of its result.
-/

namespace TapeSwarm

/-- A table of bracket positions, each with the position of its partner. -/
abbrev Brackets := List (Nat × Nat)

namespace Brackets

/-- The position of the partner of the bracket at a position, if it has one. -/
def partner? (table : Brackets) (position : Nat) : Option Nat :=
  table.lookup position

/-- What a scan finds: the pairs, and the position of the `]` that stopped it. -/
structure Scan where
  table : Brackets
  stray : Option Nat
  deriving DecidableEq, Repr

/-- Scans on from `position`, with the open brackets of `waiting`, innermost first. -/
def scanFrom (position : Nat) (waiting : List Nat) (table : Brackets) : Tape → Scan
  | [] => ⟨table, none⟩
  | b :: rest =>
    match Instruction.ofByte? b with
    | some .opening => scanFrom (position + 1) (position :: waiting) table rest
    | some .closing =>
      match waiting with
      | [] => ⟨table, some position⟩
      | start :: waiting =>
        scanFrom (position + 1) waiting ((position, start) :: (start, position) :: table) rest
    | _ => scanFrom (position + 1) waiting table rest

/-- The scan of a whole tape. -/
def scan (tape : Tape) : Scan :=
  scanFrom 0 [] [] tape

/-- The bracket table of a tape. -/
def ofTape (tape : Tape) : Brackets :=
  (scan tape).table

/-- The partners of the first `length` positions. -/
def indexed (table : Brackets) (length : Nat) : Array (Option Nat) :=
  table.foldr (fun (position, partner) partners => partners.setIfInBounds position (some partner))
    (Array.replicate length none)

theorem size_indexed (table : Brackets) (length : Nat) : (table.indexed length).size = length := by
  induction table with
  | nil => simp [indexed]
  | cons pair rest ih => simpa [indexed] using ih

/-- The index holds what the table says. -/
theorem getElem?_indexed (table : Brackets) {length position : Nat} (inside : position < length) :
    (table.indexed length)[position]? = some (table.partner? position) := by
  induction table with
  | nil => simp [indexed, partner?, inside]
  | cons pair rest ih =>
    obtain ⟨start, partner⟩ := pair
    have sized : position < (indexed rest length).size := by simpa [size_indexed] using inside
    have step : indexed ((start, partner) :: rest) length =
        (indexed rest length).setIfInBounds start (some partner) := rfl
    rw [step, Array.getElem?_setIfInBounds, partner?, List.lookup_cons]
    by_cases same : start = position
    · subst same
      simp [sized]
    · have other : (position == start) = false := by simpa using fun h => same h.symm
      simp [same, ih, partner?, other]

/-- The pairs of a table by position. -/
def sorted (table : Brackets) : List (Nat × Nat) :=
  table.mergeSort fun a b => a.1 ≤ b.1

end Brackets

end TapeSwarm
