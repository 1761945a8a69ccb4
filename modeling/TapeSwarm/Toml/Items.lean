import TapeSwarm.Text.Blank
import TapeSwarm.Toml.Quoted

/-!
The items of arrays in settings files.

The brackets of an array are its first and its last character, whatever they are. Where the first
item is an array the commas outside of brackets separate items, and brackets in quotes count.
Otherwise all commas separate pieces; where a text comes first, a piece that is no whole text goes
on with the next piece.
-/

namespace TapeSwarm.Toml.Items

/-- What stands between the brackets of an array. -/
def inside (text : List Char) : List Char :=
  (text.drop 1).dropLast

/-- Whether an array starts with a quoted text. -/
def startsQuoted (text : List Char) : Bool :=
  ((Text.trim (inside text)).head?.map Quoted.isQuote).getD false

/-- Whether a piece starts and ends with the same character, and the last one is not escaped. -/
def isBounded (piece : List Char) : Bool :=
  piece.head? = piece.getLast? && !Quoted.escapesNext (inside piece).reverse

/-- Whether three equal characters open a piece, and only one of them ends it. -/
def opensTriple (piece : List Char) : Bool :=
  match piece, piece.reverse with
  | a :: b :: c :: _, _ :: y :: x :: _ => a = b && b = c && y ≠ a && x ≠ a
  | _, _ => false

/-- Whether a piece is an item by itself. -/
def isWhole (piece : List Char) : Bool :=
  isBounded piece && !opensTriple piece

/-- Joins pieces to items. The last piece is not looked at unless it was `joined` to another. -/
def joinPieces (joined : Bool) (piece : List Char) :
    List (List Char) → Except Fault (List (List Char))
  | [] =>
    if joined && !isWhole (Text.trim piece) then .error .pastArray else .ok [piece]
  | next :: more =>
    if isWhole (Text.trim piece) then (joinPieces false next more).map (piece :: ·)
    else joinPieces true (piece ++ ',' :: next) more

/-- Splits at the commas outside of brackets; `item` holds the item so far, backwards. -/
def splitNested (depth : Int) (item : List Char) : List Char → List (List Char)
  | [] => [item.reverse]
  | c :: rest =>
    if c = ',' && depth = 0 then item.reverse :: splitNested depth [] rest
    else
      let depth := if c = '[' then depth + 1 else if c = ']' then depth - 1 else depth
      splitNested depth (c :: item) rest

/-- Whether the first item is an array. -/
def isNested (text : List Char) : Bool :=
  let front := (inside text).takeWhile (· ≠ '[')
  front.length < (inside text).length && (Text.trim front).isEmpty

/-- The texts of the items of an array; empty ones do not count. -/
def ofArray (text : List Char) : Except Fault (List (List Char)) := do
  let pieces ←
    if isNested text then .ok (splitNested 0 [] (inside text))
    else
      match Text.cut ',' (inside text) with
      | first :: more =>
        if startsQuoted text then joinPieces false first more else .ok (first :: more)
      | [] => .ok []
  .ok ((pieces.map Text.trim).filter fun item => !item.isEmpty)

/-- The last text of an array without its closing bracket: from the last comma on that has a quote
right after it. `piece` is what stands after the commas behind it. -/
def lastText (piece : List Char) : List (List Char) → Except Fault (List Char)
  | [] => .ok piece
  | before :: more =>
    match piece with
    | [] => .error .pastText
    | c :: _ =>
      if Quoted.isQuote c then .ok piece else lastText (before ++ ',' :: piece) more

end TapeSwarm.Toml.Items
