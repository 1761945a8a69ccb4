import TapeSwarm.Machine.Request

/-!
# Clean runs and the past

A clean run resets a machine, loads a tape and runs it. Between them the three overwrite every field
but the input queue, so of all that a machine went through before, a clean run can only see the
bytes that are still queued (`reset_load_eq`). A machine that was just made and fed these bytes
serves as well.

Result: `execute_forgets_history`.
-/

namespace TapeSwarm.Machine

variable {size : Nat}

/-- After a reset and a load, nothing but the input queue is left of what a machine was. -/
theorem reset_load_eq {m other : Machine size} (queue : m.input = other.input) (tape : Tape) :
    m.reset.load tape = other.reset.load tape := by
  cases m
  cases other
  cases queue
  rfl

/-- The answer to a clean run depends on the past through the input queue only. -/
theorem snd_execute_eq {m other : Machine size} (queue : m.input = other.input) (source : Source)
    (budget : Budget) (patternSize : Int) :
    (m.execute source budget patternSize).2 = (other.execute source budget patternSize).2 := by
  unfold execute
  cases source.read with
  | error fault => rfl
  | ok tape => simp only [runClean, reset_load_eq queue]

/-- What a clean run of a tape leaves depends on the past through the input queue only. -/
theorem fst_execute_eq {m other : Machine size} (queue : m.input = other.input) {source : Source}
    {tape : Tape} (read : source.read = .ok tape) (budget : Budget) (patternSize : Int) :
    (m.execute source budget patternSize).1 = (other.execute source budget patternSize).1 := by
  simp only [execute, read, runClean, reset_load_eq queue]

/-- A clean run on a machine with any history answers what it answers on a new machine that was fed
the bytes the old one has queued, and if the source is a tape, the two machines are the same after
it. -/
theorem execute_forgets_history (positive : 0 < size) (history : List Request) (source : Source)
    (steps patternSize : Int) :
    let used := (blank size positive).after history
    let fresh := ((blank size positive).respond (.feed (.bytes used.input))).machine
    (used.execute source (.ofInt steps) patternSize).2 =
        (fresh.execute source (.ofInt steps) patternSize).2 ∧
      ∀ tape, source.read = .ok tape →
        (used.execute source (.ofInt steps) patternSize).1 =
          (fresh.execute source (.ofInt steps) patternSize).1 := by
  intro used fresh
  have queue : used.input = fresh.input := (List.nil_append _).symm
  exact ⟨snd_execute_eq queue source _ _, fun tape read => fst_execute_eq queue read _ _⟩

/-- A machine left in the middle of a loop, on a cell that is not zero, with input queued. -/
def usedHistory : List Request :=
  [.feed (.bytes [7, 8]), .load (.text [',', '[', '>', '-', '.', ']']), .run (.ofInt 5),
    .load (.scalar .integer), .step]

theorem execute_forgets_usedHistory :
    0 < 2 ∧ ((blank 2 Nat.two_pos).after usedHistory).input = [8] ∧
    (Source.text [',', '.']).read = .ok [44, 46] ∧
    (((blank 2 Nat.two_pos).after usedHistory).execute (.text [',', '.']) (.ofInt 9) 1).1 =
      (((blank 2 Nat.two_pos).respond (.feed (.bytes [8]))).machine.execute
        (.text [',', '.']) (.ofInt 9) 1).1 := by
  have queued : ((blank 2 Nat.two_pos).after usedHistory).input = [8] := by decide
  have read : (Source.text [',', '.']).read = .ok [44, 46] := rfl
  have same :=
    (execute_forgets_history Nat.two_pos usedHistory (.text [',', '.']) 9 1).2 [44, 46] read
  rw [queued] at same
  exact ⟨Nat.two_pos, queued, read, same⟩

end TapeSwarm.Machine
