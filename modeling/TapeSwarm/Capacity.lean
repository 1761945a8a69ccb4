import TapeSwarm.Decimal.Fixed

/-!
What fits: which integers count and index blocks of memory, and how large a block may be.

Blocks are counted in signed words of 64 bits. A number that is not too large to be counted may
still ask for more bytes than can be counted, or for more than memory has. How many bytes it has is
told from outside.
-/

namespace TapeSwarm.Capacity

/-- The largest number that can index a block. -/
def largestIndex : Nat := 9223372036854775807

/-- The words of 64 bits that can hold an integer. -/
inductive Reach where
  | signed
  /-- The integer is too large for a signed word, but not for one without a sign. -/
  | unsigned
  | none
  deriving DecidableEq, Repr

/-- The words that can hold an integer. -/
def reach (n : Int) : Reach :=
  if n < -(largestIndex : Int) - 1 then .none
  else if n ≤ largestIndex then .signed
  else if n ≤ 2 * largestIndex + 1 then .unsigned
  else .none

/-- What blocks consist of. -/
inductive Item where
  | byte
  /-- A signed integer of 64 bits. -/
  | word
  deriving DecidableEq, Repr

/-- The bytes of an item. -/
def Item.width : Item → Nat
  | byte => 1
  | word => 8

/-- The name of an item's type. -/
def Item.name : Item → String
  | byte => "uint8"
  | word => "int64"

/-- The bytes that memory is taken to have where nobody knows. -/
def usualRoom : Nat := 34359738367

/-- Why a number of items makes no block. -/
inductive Fault where
  | negative
  /-- The number of items cannot be counted. -/
  | uncountable
  /-- The number of bytes cannot be counted. -/
  | oversized
  /-- Memory has no room for the block. -/
  | noRoom (count : Nat) (item : Item)
  deriving DecidableEq, Repr

/-- The number of items that a block has, if a number of bytes has room for it. -/
def check (room : Nat) (item : Item) (number : Int) : Except Fault Nat :=
  if reach number ≠ .signed then .error .uncountable
  else if number < 0 then .error .negative
  else
    let bytes := number.toNat * item.width
    if largestIndex < bytes then .error .oversized
    else if room < bytes then .error (.noRoom number.toNat item)
    else .ok number.toNat

/-! ## Sizes in words -/

/-- A number of three digits; where there are more before the point, all of these and the point. -/
def threeDigits (x : Float) : String :=
  let isShort (text : String) : Bool := text.length ≤ 4
  if isShort (Decimal.fixed 2 x) then Decimal.fixed 2 x
  else if isShort (Decimal.fixed 1 x) then Decimal.fixed 1 x
  else Decimal.fixed 0 x ++ "."

/-- A size in the first of some units in which it is below 1024 when rounded, or in the last one. -/
def sizeIn (x : Float) (unit : String) : List String → String
  | [] => threeDigits x ++ " " ++ unit
  | next :: more =>
    if x < 1023.5 then threeDigits x ++ " " ++ unit else sizeIn (x / 1024.0) next more

/-- A number of bytes, from one KiB on. -/
def sizeText (bytes : Nat) : String :=
  sizeIn (Float.ofNat bytes / 1024.0) "KiB" ["MiB", "GiB", "TiB", "PiB", "EiB"]

/-- The words for a fault. -/
def Fault.message : Fault → String
  | negative => "negative dimensions are not allowed"
  | uncountable => "Maximum allowed dimension exceeded"
  | oversized =>
    "array is too big; `arr.size * arr.dtype.itemsize` is larger than the maximum possible size."
  | noRoom count item =>
    "Unable to allocate " ++ sizeText (count * item.width) ++ " for an array with shape ("
      ++ toString count ++ ",) and data type " ++ item.name

end TapeSwarm.Capacity
