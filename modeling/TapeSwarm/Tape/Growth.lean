import TapeSwarm.Random.Source
import TapeSwarm.Tape.Basic
import TapeSwarm.Threshold

/-!
How tapes come about: by chance, by point mutation and by replication.

Growth and replication take every draw whether or not its result is used, so what is drawn depends
on lengths and earlier draws, never on the bytes of a tape or on a ratio. Replication copies
instructions exactly and lets filler drift; mutation changes one place.
-/

namespace TapeSwarm.Tape

variable {σ : Type} [RandomSource σ]

/-- The longest tape that replication leaves, and the length of a tape grown by chance. -/
def longest : Nat := 64

/-- The shortest tape that replication leaves, and the length of a food tape. -/
def shortest : Nat := 8

/-- The part of instructions in a tape grown by chance where no other is asked for. -/
def defaultRatio : Float := 0.25

/-- The chance of an exact copy of a filler byte where no other is asked for. -/
def defaultFidelity : Float := 0.95

/-- The chance that a mutation writes an instruction. -/
def instructionChance : Float := 0.6

/-- A byte moved by a drift, around the end of the byte range. -/
def nudge (b : UInt8) (drift : Int) : UInt8 :=
  UInt8.ofNat ((b.toNat + drift) % 256).toNat

/-- Draws an instruction. -/
def drawInstruction : Draws σ UInt8 := do
  let i ← Draws.upTo 7
  pure (Instruction.ofIndex i).byte

/-- Draws `count` instructions. -/
def drawInstructions (count : Nat) : Draws σ Tape :=
  Draws.repeated drawInstruction count

/-- Draws `count` filler bytes, each of which may happen to be an instruction. -/
def drawFiller (count : Nat) : Draws σ Tape := do
  let bytes ← Draws.block count
  pure bytes.toList

/-- Puts an instruction wherever the fraction is below the ratio, and filler elsewhere. -/
def blend (ratio : Float) (filler instructions : Tape) (fractions : List Float) : Tape :=
  ((filler.zip instructions).zip fractions).map fun ((b, i), f) => if f < ratio then i else b

theorem length_blend (ratio : Float) (filler instructions : Tape) (fractions : List Float) :
    (blend ratio filler instructions fractions).length =
      min (min filler.length instructions.length) fractions.length := by
  simp [blend]

/-- Draws a tape: all filler, all instructions, then the fractions that choose between them. -/
def drawTape (length : Nat) (ratio : Float) : Draws σ Tape := do
  let filler ← drawFiller length
  let instructions ← drawInstructions length
  let fractions ← Draws.repeated Draws.fraction length
  pure (blend ratio filler instructions fractions)

/-- Why there is no tape. -/
inductive GrowthFault where
  | random (fault : RandomFault)
  | threshold (fault : Threshold.Fault)
  deriving DecidableEq, Repr

/-- The words for a fault. -/
def GrowthFault.message : GrowthFault → String
  | random fault => fault.message
  | threshold fault => fault.message

/-- Draws as many instructions as a number asks for. -/
def growInstructions (number : Int) (s : σ) : σ × Except GrowthFault Tape :=
  match RandomSource.countChoices s number with
  | .error fault => (s, .error (.random fault))
  | .ok count =>
    let (tape, s) := drawInstructions count s
    (s, .ok tape)

/-- Draws a tape as long as a number asks for. Everything is drawn before the ratio is looked at. -/
def grow (number : Int) (ratio : Threshold) (s : σ) : σ × Except GrowthFault Tape :=
  match RandomSource.countBytes s number, RandomSource.countChoices s number with
  | .error fault, _ => (s, .error (.random fault))
  | .ok _, .error fault => (s, .error (.random fault))
  | .ok length, .ok _ =>
    let (tape, s) := drawTape length ratio.limit s
    (s, (ratio.check.mapError .threshold).map fun _ => tape)

/-- Draws a food tape: two to five instructions, then filler up to the shortest length. -/
def drawFood : Draws σ Tape := do
  let extra ← Draws.upTo 3
  let head ← drawInstructions (extra.val + 2)
  let filler ← drawFiller (shortest - head.length)
  pure (head ++ filler)

/-- Mutates one place: it becomes an instruction, or its byte moves by at most five. -/
def mutate : Tape → Draws σ Tape
  | [] => pure []
  | tape@(_ :: rest) => do
    let place ← Draws.upTo rest.length
    let f ← Draws.fraction
    if f < instructionChance then
      let i ← drawInstruction
      pure (tape.set place i)
    else
      let drift ← Draws.upTo 10
      pure (tape.modify place (nudge · (drift.val - 5)))

/-- The copy of one byte: filler drifts where its fraction is not below the fidelity. -/
def copyByte (fidelity : Float) (b : UInt8) (drift : Fin 5) (f : Float) : UInt8 :=
  if !isInstruction b && fidelity ≤ f then nudge b (drift.val - 2) else b

/-- The copy of a tape under the drifts and fractions drawn for its bytes. -/
def copy (fidelity : Float) (tape : Tape) (drifts : List (Fin 5)) (fractions : List Float) : Tape :=
  ((tape.zip drifts).zip fractions).map fun ((b, drift), f) => copyByte fidelity b drift f

theorem length_copy (fidelity : Float) (tape : Tape) (drifts : List (Fin 5))
    (fractions : List Float) :
    (copy fidelity tape drifts fractions).length =
      min (min tape.length drifts.length) fractions.length := by
  simp [copy]

/-- Draws a noisy copy, filled up with instructions to the least length and cut to the longest. -/
def replicate (fidelity : Float) (tape : Tape) : Draws σ Tape := do
  let drifts ← Draws.repeated (Draws.upTo 4) tape.length
  let fractions ← Draws.repeated Draws.fraction tape.length
  let child := copy fidelity tape drifts fractions
  let padding ← drawInstructions (shortest - child.length)
  pure ((child ++ padding).take longest)

/-- Draws a noisy copy; a fidelity that nothing can be compared with is found after the
fractions. -/
def replicateBelow (fidelity : Threshold) (tape : Tape) : Draws σ (Except GrowthFault Tape) :=
  match fidelity.check with
  | .ok fidelity => do
    let child ← replicate fidelity tape
    pure (.ok child)
  | .error fault => do
    let _ ← Draws.repeated (Draws.upTo 4) tape.length
    let _ ← Draws.repeated Draws.fraction tape.length
    pure (.error (.threshold fault))

end TapeSwarm.Tape
