import TapeSwarm.Machine.Run

/-!
What is read off a machine after a run, and clean runs.

`execute` resets a machine, installs a tape, runs it and takes a snapshot. The tape is read after
the reset, so a source that is no tape leaves a machine that was reset and keeps its old program.
-/

namespace TapeSwarm

/-- The numbers read off a machine after a run. -/
structure Snapshot where
  operations : Int
  memorySum : Int
  /-- The first cells. -/
  pattern : List Int
  output : List Int
  deriving DecidableEq, Repr

namespace Snapshot

/-- How many cells a pattern shows where nothing else is asked for. -/
def defaultPatternSize : Int := 8

/-- Why there is no pattern of a size: it is beyond what can be counted, or memory has no room. -/
inductive PatternFault where
  | uncountable
  | noRoom
  deriving DecidableEq, Repr

/-- The words for a fault. -/
def PatternFault.message : PatternFault → String
  | uncountable => "cannot fit 'int' into an index-sized integer"
  | noRoom => ""

/-- Checks that a number of bytes has room for some patterns of zeros of one size. -/
def checkPatterns (room count : Nat) (patternSize : Int) : Except PatternFault Unit :=
  if count = 0 then .ok ()
  else if Capacity.reach patternSize ≠ .signed then .error .uncountable
  else if room < count * (patternSize.toNat * Capacity.Item.word.width) then .error .noRoom
  else .ok ()

/-- The snapshot of a machine that has not run: a pattern of zeros. -/
def empty (patternSize : Int) : Snapshot :=
  ⟨0, 0, List.replicate patternSize.toNat 0, []⟩

end Snapshot

namespace Machine

variable {size : Nat}

/-- How many of `length` cells a pattern shows; a negative size leaves out cells at the end. -/
def patternLength (length : Nat) (patternSize : Int) : Nat :=
  if patternSize < 0 then (length + patternSize).toNat else min patternSize.toNat length

/-- The first cells, as many as `patternSize` asks for. -/
def pattern (m : Machine size) (patternSize : Int) : List Int :=
  (m.memory.toArray.extract 0 (patternLength size patternSize)).toList.map fun v => v.toNat

/-- The sum of all cells. -/
def memorySum (m : Machine size) : Nat :=
  m.memory.foldl (fun total v => total + v.toNat) 0

/-- The cells that are not zero, by position. -/
def occupied (m : Machine size) : List (Nat × UInt8) :=
  m.memory.toList.zipIdx.filterMap fun (v, i) => if v = 0 then none else some (i, v)

/-- What is read off a machine after a run. -/
def snapshot (m : Machine size) (patternSize : Int) : Snapshot where
  operations := m.operations
  memorySum := m.memorySum
  pattern := m.pattern patternSize
  output := m.output.toList.map fun v => v.toNat

/-- The machine after a clean run of a tape. -/
def runClean (m : Machine size) (tape : Tape) (budget : Budget) : Machine size :=
  ((m.reset.load tape).run budget).machine

/-- A clean run of whatever a source holds, and its snapshot. -/
def execute (m : Machine size) (source : Source) (budget : Budget) (patternSize : Int) :
    Machine size × Except TapeFault Snapshot :=
  match source.read with
  | .error fault => (m.reset, .error fault)
  | .ok tape =>
    let done := m.runClean tape budget
    (done, .ok (done.snapshot patternSize))

end Machine

end TapeSwarm
