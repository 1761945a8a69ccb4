/-!
Linear scales, over any numbers that measures are taken in.

Programs measure in doubles; reasoning about measures is done in rationals. A scale is one formula
over either.
-/

namespace TapeSwarm

/-- The double nearest to an integer. -/
instance intCastFloat : IntCast Float := ⟨Float.ofInt⟩

namespace Scale

variable {α : Type} [Add α] [Sub α] [Mul α] [Div α] [LT α] [DecidableLT α] [BEq α] [IntCast α]

/-- The second of two numbers where it is less, else the first. -/
def lesser (a b : α) : α := if b < a then b else a

/-- The second of two numbers where it is greater, else the first. -/
def greater (a b : α) : α := if a < b then b else a

/-- Brings a value between two bounds; the lower bound has the last word. -/
def clamp (value lo hi : α) : α := greater lo (lesser hi value)

/-- Maps the span from `lo` to `hi` onto the span from `outLo` to `outHi`, and what lies beyond it
beyond; a span without extent goes to `outLo`. -/
def rescale (value lo hi outLo outHi : α) : α :=
  if hi == lo then outLo else outLo + (value - lo) * (outHi - outLo) / (hi - lo)

/-- An integer as a measure. -/
def ofInt (n : Int) : α := IntCast.intCast n

/-- The place of an integer between two others, as a part of one. -/
def portion (value lo hi : Int) : α :=
  rescale (ofInt value) (ofInt lo) (ofInt hi) (ofInt 0) (ofInt 1)

end Scale

end TapeSwarm
