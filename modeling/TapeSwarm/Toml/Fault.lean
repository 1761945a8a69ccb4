import TapeSwarm.Toml.Value

/-!
Why a text is no settings file.

Most faults are of the text itself. A header or a key may also lead to a place where no table can
be, and some texts end where a character is looked for.
-/

namespace TapeSwarm.Toml

/-- The faults of a settings text. -/
inductive Fault where
  /-- A quoted text goes on beyond its line. -/
  | openText
  | emptyKey
  /-- A key has no equals sign after it, or a character that it cannot have. -/
  | badKey
  | emptyValue
  /-- An escape in a quoted text that means nothing. -/
  | badEscape
  /-- Something stands after the end of a quoted text. -/
  | afterText
  | badNumber
  /-- The numbers of a time of day are too large. -/
  | badTime
  | mixedArray
  | badHeader
  | duplicateKey
  | duplicateTable
  /-- A header leads through a number, a truth value or a moment. -/
  | throughScalar (sort : Value.Sort)
  /-- A name is looked for in a number, a truth value or a moment. -/
  | inScalar (sort : Value.Sort)
  /-- A name is looked for in a text, and is not part of it. -/
  | inText
  /-- A name is looked for in a text, and is part of it. -/
  | asTextIndex
  /-- A name is looked for in an array. -/
  | asArrayIndex
  /-- A text has no character where one is looked for. -/
  | pastText
  /-- There is no item where one is looked for. -/
  | pastArray
  /-- The digits of an escape write a number that is far too large. -/
  | hugeCodePoint
  /-- The digits of a fraction of a second write a number that no double holds. -/
  | longFraction
  /-- A text over several lines has an empty key. -/
  | unnamedText
  /-- Arrays stand in each other too deep. -/
  | tooDeep
  deriving DecidableEq, Repr

namespace Fault

/-- The kinds of fault. -/
inductive Kind where
  /-- The text does not follow the format. -/
  | malformed
  /-- A name meets a value of a type that has no names. -/
  | badType
  | pastEnd
  | tooLarge
  /-- A value is asked for that was never read. -/
  | unread
  | tooDeep
  deriving DecidableEq, Repr

/-- The kind of a fault. -/
def kind : Fault → Kind
  | throughScalar _ | inScalar _ | inText | asTextIndex | asArrayIndex => .badType
  | pastText | pastArray => .pastEnd
  | hugeCodePoint | longFraction => .tooLarge
  | unnamedText => .unread
  | tooDeep => .tooDeep
  | _ => .malformed

/-- The words for a fault. -/
def message : Fault → String
  | openText => "a text is not closed"
  | emptyKey => "a key is empty"
  | badKey => "a key is not understood"
  | emptyValue => "a value is missing"
  | badEscape => "an escape is not understood"
  | afterText => "something follows a text"
  | badNumber => "a number is not understood"
  | badTime => "a time is not understood"
  | mixedArray => "an array mixes types"
  | badHeader => "a header is not understood"
  | duplicateKey => "a key is given twice"
  | duplicateTable => "a table is given twice"
  | throughScalar sort => "'" ++ sort.name ++ "' object is not subscriptable"
  | inScalar sort => "argument of type '" ++ sort.name ++ "' is not iterable"
  | inText => "'str' object does not support item assignment"
  | asTextIndex => "string indices must be integers, not 'str'"
  | asArrayIndex => "list indices must be integers or slices, not str"
  | pastText => "string index out of range"
  | pastArray => "list index out of range"
  | hugeCodePoint => "Python int too large to convert to C int"
  | longFraction => "int too large to convert to float"
  | unnamedText => "cannot access local variable 'value' where it is not associated with a value"
  | tooDeep => "maximum recursion depth exceeded while calling a Python object"

end Fault

end TapeSwarm.Toml
