import TapeSwarm.Tape.Basic
import TapeSwarm.Text.Hexadecimal

/-!
What can be offered as a tape, and how it is read.

Text, raw bytes, sequences and number grids are all ways to write one tape. Reading keeps every
value and its place: it answers the bytes that equal the values, or the reason why the first value
at fault is not a byte.
-/

namespace TapeSwarm

/-- The kinds of sequence whose items are read one by one. -/
inductive Collection where
  | list
  | tuple
  | generator
  | mapping
  deriving DecidableEq, Repr

/-- The word for a kind of sequence in a message. -/
def Collection.name : Collection → String
  | list => "list"
  | tuple => "tuple"
  | generator => "generator"
  | mapping => "dict"

/-- An item of a sequence: an integer (a truth value counts as 0 or 1), or something else. -/
inductive Item where
  | integer (value : Int)
  | other
  deriving DecidableEq, Repr

/-- Single values, none of which is a sequence. -/
inductive Scalar where
  | integer
  | fraction
  | nothing
  deriving DecidableEq, Repr

/-- A value offered as a tape. -/
inductive Source where
  /-- Each character stands for the byte of its code point. -/
  | text (characters : List Char)
  | bytes (tape : Tape)
  | items (collection : Collection) (items : List Item)
  /-- A grid of integers, read row after row. -/
  | grid (rows : List (List Int))
  /-- A grid of `size` elements that are not integers. -/
  | otherGrid (element : String) (size : Nat)
  | scalar (kind : Scalar)
  deriving Repr

/-- The two kinds of fault: a value of the right type that will not do, or one of a wrong type. -/
inductive FaultKind where
  | badValue
  | badType
  deriving DecidableEq, Repr

/-- Why a source is not a tape. -/
inductive TapeFault where
  /-- The characters from `first` to `last` are too wide for a byte; `wide` is the first of them. -/
  | wideCharacters (wide : Char) (first last : Nat)
  | itemOutOfRange
  | gridOutOfRange
  | fractionalGrid (element : String)
  | bareInteger
  | unsupported (name : String)
  deriving DecidableEq, Repr

namespace TapeFault

/-- The kind of a fault. -/
def kind : TapeFault → FaultKind
  | wideCharacters .. | itemOutOfRange | gridOutOfRange => .badValue
  | fractionalGrid _ | bareInteger | unsupported _ => .badType

/-- A wide character as an escape of four hexadecimal digits, or eight where four are too few. -/
def escaped (wide : Char) : String :=
  if wide.toNat < 0x10000 then "\\u" ++ Text.hexadecimal 4 wide.toNat
  else "\\U" ++ Text.hexadecimal 8 wide.toNat

/-- The words for a fault. -/
def message : TapeFault → String
  | wideCharacters wide first last =>
    let place :=
      if first = last then "character '" ++ escaped wide ++ "' in position " ++ toString first
      else "characters in position " ++ toString first ++ "-" ++ toString last
    "program characters must be in range 0-255: 'latin-1' codec can't encode " ++ place
      ++ ": ordinal not in range(256)"
  | itemOutOfRange => "bytes must be in range(0, 256)"
  | gridOutOfRange => "program bytes must be in range 0-255"
  | fractionalGrid element => "program array must hold integers, not " ++ element
  | bareInteger => "program must be a byte sequence, not int"
  | unsupported name => "unsupported program type: " ++ name

end TapeFault

/-- Whether a character's code point fits a byte. -/
def isNarrow (c : Char) : Bool :=
  c.toNat < 256

/-- The byte equal to an integer, if there is one. -/
def byteOfInt? (value : Int) : Option UInt8 :=
  if 0 ≤ value ∧ value < 256 then some (UInt8.ofNat value.toNat) else none

namespace Source

/-- Reads text; the first run of wide characters is the fault. -/
def readText (characters : List Char) : Except TapeFault Tape :=
  match characters.dropWhile isNarrow with
  | [] => .ok (characters.map fun c => UInt8.ofNat c.toNat)
  | wide :: rest =>
    let first := (characters.takeWhile isNarrow).length
    .error (.wideCharacters wide first (first + (rest.takeWhile fun c => !isNarrow c).length))

/-- Reads items from the left; the first that is not a byte decides. -/
def readItems (collection : Collection) : List Item → Except TapeFault Tape
  | [] => .ok []
  | .integer value :: rest =>
    match byteOfInt? value with
    | none => .error .itemOutOfRange
    | some b => (readItems collection rest).map (b :: ·)
  | .other :: _ => .error (.unsupported collection.name)

/-- Reads a grid of integers row after row. -/
def readGrid (rows : List (List Int)) : Except TapeFault Tape :=
  match rows.flatten.mapM byteOfInt? with
  | none => .error .gridOutOfRange
  | some tape => .ok tape

/-- The tape that a source is, or the reason why it is none. -/
def read : Source → Except TapeFault Tape
  | .text characters => readText characters
  | .bytes tape => .ok tape
  | .items collection list => readItems collection list
  | .grid rows => readGrid rows
  | .otherGrid element size => if size = 0 then .ok [] else .error (.fractionalGrid element)
  | .scalar .integer => .error .bareInteger
  | .scalar .fraction => .error (.unsupported "float")
  | .scalar .nothing => .error (.unsupported "NoneType")

end Source

end TapeSwarm
