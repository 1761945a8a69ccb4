import TapeSwarm.Text.Blank
import TapeSwarm.Toml.Quoted

/-!
Headers of tables: names in brackets with dots between them.

A name in quotes may be anything; others consist of letters, digits, `_` and `-`. Whether a quoted
name is empty is seen only when its table is opened.
-/

namespace TapeSwarm.Toml.Header

/-- What stands before the closing bracket of a header given without its opening one; the bracket
has to end its line. Brackets in quotes do not count. -/
def inside? (text : List Char) : Option (List Char) :=
  let pieces := Text.cut ']' text
  let count := 1 + Quoted.countBefore ']' false (Quoted.between text)
  if count < pieces.length && (Text.trim (Text.join ']' (pieces.drop count))).isEmpty then
    some (Text.join ']' (pieces.take count))
  else none

/-- Whether a character may stand in a name without quotes. -/
def isNameChar (c : Char) : Bool :=
  c.isAlphanum || c = '_' || c = '-'

/-- Whether a part is a quoted name that has been closed. -/
def isClosed (part : List Char) : Bool :=
  1 < part.length && part.head? = part.getLast?

/-- Whether a part starts with a quote. -/
def isQuoted (part : List Char) : Bool :=
  (part.head?.map Quoted.isQuote).getD false

/-- The name that a part gives. -/
def nameOf (part : List Char) : Except Fault String :=
  if isQuoted part then
    if isClosed part then .ok (String.ofList (part.drop 1).dropLast) else .error .badHeader
  else if part.isEmpty || !part.all isNameChar then .error .badHeader
  else .ok (String.ofList part)

/-- The names that parts between dots give: `part`, which has no blanks in front, and the parts
after it. A quoted part goes on with the next one until it is closed. -/
def namesFrom (part : List Char) : List (List Char) → Except Fault (List String)
  | [] => (nameOf (Text.trim part)).map ([·])
  | next :: more =>
    if isQuoted part && !isClosed (Text.trim part) then namesFrom (part ++ '.' :: next) more
    else do
      let name ← nameOf (Text.trim part)
      let names ← namesFrom (Text.trim next) more
      .ok (name :: names)

/-- The names of a header given without its opening bracket. -/
def path (text : List Char) : Except Fault (List String) :=
  match inside? text with
  | none => .error .badHeader
  | some inside =>
    match Text.cut '.' inside with
    | [] => .error .badHeader
    | part :: more => namesFrom (Text.trim part) more

end TapeSwarm.Toml.Header
