import TapeSwarm.Text.Hexadecimal
import TapeSwarm.Text.Unprintable

/-!
Quoted text, as messages show names and paths.

Single quotes enclose a text, or double quotes where it has single ones and no double ones. The
backslash, the enclosing quote and whatever has no printed form are escaped.
-/

namespace TapeSwarm.Text

/-- The quote that encloses a text. -/
def enclosing (text : List Char) : Char :=
  if text.contains '\'' && !text.contains '"' then '"' else '\''

/-- A character inside quotes. -/
def escape (quote c : Char) : String :=
  if c = quote || c = '\\' then String.ofList ['\\', c]
  else if c = '\n' then "\\n"
  else if c = '\r' then "\\r"
  else if c = '\t' then "\\t"
  else if isPrintable c then c.toString
  else if c.toNat < 0x100 then "\\x" ++ hexadecimal 2 c.toNat
  else if c.toNat < 0x10000 then "\\u" ++ hexadecimal 4 c.toNat
  else "\\U" ++ hexadecimal 8 c.toNat

/-- A text in quotes. -/
def quoted (text : String) : String :=
  let characters := text.toList
  let quote := enclosing characters
  quote.toString ++ String.join (characters.map (escape quote)) ++ quote.toString

end TapeSwarm.Text
