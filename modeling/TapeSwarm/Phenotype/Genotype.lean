import Std.Data.HashMap
import Std.Data.HashSet
import TapeSwarm.Tape.Basic
import TapeSwarm.Phenotype.Signature

/-!
The genotype of a tape: how often its code uses which instructions, and how much it repeats itself.

All parts are computed from the code, the tape without its filler. A tape without code has the
`inert` genotype.
-/

namespace TapeSwarm

/-- The measures of a tape's code. -/
structure Genotype (α : Type) where
  movement : α
  operation : α
  loop : α
  exchange : α
  arrangement : α
  rhythm : α
  complexity : α
  signature : α
  deriving Repr

namespace Genotype

/-- All runs of `n` neighbours in a list, from the left. -/
def windows {β : Type} (n : Nat) : List β → List (List β)
  | [] => []
  | b :: rest =>
    let window := (b :: rest).take n
    if window.length = n then window :: windows n rest else []

variable {β : Type} [BEq β] [Hashable β]

/-- Puts a member in front of others: how many of them occur again further on, and who they are. -/
def notice (b : β) : Nat × Std.HashSet β → Nat × Std.HashSet β
  | (count, later) => (if later.contains b then count + 1 else count, later.insert b)

/-- How many members of a list occur in it again further on. -/
def recurring (list : List β) : Nat :=
  (list.foldr notice (0, ∅)).1

/-- How often each member of a list occurs in it. -/
def tally (list : List β) : Std.HashMap β Nat :=
  list.foldr (fun b counts => counts.insert b (counts.getD b 0 + 1)) ∅

/-- How many members of a list are not alone of their kind in it. -/
def shared (list : List β) : Nat :=
  let counts := tally list
  list.countP fun b => 1 < counts.getD b 0

section Counting

variable [LawfulBEq β]

theorem contains_notice (list : List β) (b : β) :
    (list.foldr notice (0, ∅)).2.contains b = list.contains b := by
  induction list with
  | nil => simp
  | cons c rest ih =>
    rw [List.foldr_cons, notice, Std.HashSet.contains_insert, ih, List.contains_cons]
    rw [BEq.comm]

/-- A member counts if it is among those that follow. -/
theorem recurring_cons (b : β) (rest : List β) :
    recurring (b :: rest) = (if rest.contains b then 1 else 0) + recurring rest := by
  have known := contains_notice rest b
  simp only [recurring, List.foldr_cons, notice, known]
  split <;> omega

/-- The tally counts. -/
theorem getD_tally (list : List β) (b : β) : (tally list).getD b 0 = list.count b := by
  induction list with
  | nil => simp [tally]
  | cons c rest ih =>
    have step : tally (c :: rest) = (tally rest).insert c ((tally rest).getD c 0 + 1) := rfl
    rw [step, Std.HashMap.getD_insert, List.count_cons]
    by_cases same : c = b
    · subst same
      simp [ih]
    · simp [same, ih]

/-- A member is shared if it is counted more than once. -/
theorem shared_eq_countP (list : List β) :
    shared list = list.countP fun b => 1 < list.count b := by
  simp only [shared, getD_tally]

end Counting

/-- How many windows of three occur again later in a code. -/
def repeats (code : List β) : Nat :=
  recurring (windows 3 code)

/-- How many windows of two and of three are not unique in a code. -/
def repeated (code : List β) : Nat :=
  shared (windows 2 code) + shared (windows 3 code)

variable {α : Type} [Add α] [Sub α] [Mul α] [Div α] [LT α] [DecidableLT α] [BEq α] [IntCast α]
  [OfScientific α]

open Scale

/-- The genotype of a tape without code. -/
def inert : Genotype α where
  movement := 0.5
  operation := 0.5
  loop := ofInt 0
  exchange := ofInt 0
  arrangement := 0.5
  rhythm := 0.5
  complexity := ofInt 0
  signature := ofInt 0

/-- How often a code has an instruction. -/
def uses (code : Tape) (i : Instruction) : Nat :=
  code.count i.byte

/-- The balance of two instructions against each other, as a part of `total` both ways. -/
def balance (code : Tape) (plus minus : Instruction) (total : Nat) : α :=
  portion (uses code plus - uses code minus) (-total) total

/-- As many closing as opening brackets count for three tenths, repetition for up to seven. -/
def arrangementOf (code : Tape) : α :=
  let opens := uses code .opening
  let start : α := if 0 < opens ∧ opens = uses code .closing then 0.3 else ofInt 0
  clamp (start + lesser (ofInt (repeats code) / ofInt code.length) 0.7) (ofInt 0) (ofInt 1)

/-- The part of windows that are not unique, at most one; codes without windows lie in between. -/
def rhythmOf (code : Tape) : α :=
  if code.length < 3 then 0.5
  else clamp (portion (repeated code) 0 code.length) (ofInt 0) (ofInt 1)

/-- The genotype of a code that is not empty. -/
def ofCode (code : Tape) : Genotype α :=
  let total := code.length
  let exchanges := uses code .emit + uses code .accept
  { movement := balance code .right .left total
    operation := balance code .increment .decrement total
    loop := portion (uses code .opening + uses code .closing) 0 total
    exchange := if exchanges = 0 then 0.5 else balance code .emit .accept exchanges
    arrangement := arrangementOf code
    rhythm := rhythmOf code
    complexity := portion total 0 100
    signature := Signature.ofCodes α (code.map UInt8.toNat) }

/-- The genotype of a tape. -/
def ofTape (tape : Tape) : Genotype α :=
  let code := tape.code
  if code.isEmpty then inert else ofCode code

end Genotype

end TapeSwarm
