/-!
Text cut into pieces at a mark, pieces joined again, and texts that are parts of others.
-/

namespace TapeSwarm.Text

/-- The pieces of a text between its marks; there is one more of them than there are marks. -/
def cut (mark : Char) : List Char → List (List Char)
  | [] => [[]]
  | c :: rest =>
    if c = mark then [] :: cut mark rest
    else
      match cut mark rest with
      | [] => [[c]]
      | piece :: more => (c :: piece) :: more

/-- Pieces with a mark between each and the next. -/
def join (mark : Char) : List (List Char) → List Char
  | [] => []
  | [piece] => piece
  | piece :: next :: more => piece ++ mark :: join mark (next :: more)

/-- Whether a text stands anywhere in another. -/
def isPart (part : List Char) : List Char → Bool
  | [] => part.isEmpty
  | c :: rest => part.isPrefixOf (c :: rest) || isPart part rest

end TapeSwarm.Text
