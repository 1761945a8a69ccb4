import TapeSwarm.Text.Blank
import TapeSwarm.Toml.Quoted

/-!
Texts that go on over several lines.

A value that opens with three quotes and does not close on its line takes in the lines after it, up
to one that ends in the same three quotes. So does an array without its closing bracket whose last
text opens with three quotes; it ends with a line that ends in a bracket. A line break belongs to
the text unless a backslash escapes it; then the blanks around the next line and empty lines do not
count either.
-/

namespace TapeSwarm.Toml

/-- A text that has not been closed. -/
structure OpenText where
  key : String
  /-- What was read of it, from its opening quotes or bracket on. -/
  text : List Char
  /-- Whether the last line break was escaped. -/
  joined : Bool

/-- What one more line makes of an open text. -/
inductive OpenText.Next where
  | goesOn (text : OpenText)
  | closed (key : String) (value : List Char)

namespace OpenText

/-- The open text after a line: the backslash of an escaped line break is dropped with it. -/
def ofText (key : String) (text : List Char) : OpenText :=
  if Quoted.escapesNext text.reverse then ⟨key, text.dropLast, true⟩
  else ⟨key, text ++ ['\n'], false⟩

/-- Whether a line closes what starts with a character. -/
def closes (first : Option Char) (line : List Char) : Except Fault Bool :=
  if first = some '[' then
    match line.getLast? with
    | none => .error .pastText
    | some c => .ok (c = ']')
  else .ok (3 ≤ line.length && (line.reverse.take 3).all fun c => first = some c)

/-- Takes in one more line. -/
def next (o : OpenText) (line : List Char) : Except Fault Next :=
  let line := if o.joined then Text.trim line else line
  if o.joined && line.isEmpty then .ok (.goesOn o)
  else do
    let text := o.text ++ line
    if ← closes text.head? line then .ok (.closed o.key text)
    else .ok (.goesOn (ofText o.key text))

end OpenText

end TapeSwarm.Toml
