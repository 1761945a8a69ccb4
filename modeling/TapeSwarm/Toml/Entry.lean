import TapeSwarm.Toml.Items
import TapeSwarm.Toml.Moment.Reader
import TapeSwarm.Toml.Number

/-!
Entries: a key, an equals sign and a value.

The key of an entry ends at the first equals sign outside of quotes. Where no blank and no mark of a
text or an array follows it, the value has to be a truth value, a float or a moment; if it is none,
the key goes on to the next equals sign.
-/

namespace TapeSwarm.Toml

/-- An entry whose key and value are still text. -/
structure Entry where
  key : List Char
  value : List Char
  /-- Whether the value may be a number. -/
  tidy : Bool

namespace Entry

/-- Splits at an equals sign, given how many pieces of the line belong to the key; the last piece
never does. -/
def splitAt (pieces : List (List Char)) (count : Nat) : List Char × List Char :=
  let count := min count (pieces.length - 1)
  (Text.join '=' (pieces.take count), Text.join '=' (pieces.drop count))

/-- The blanks, quotes and brackets with which a value may start. -/
def openings : List Char := [' ', '\t', '\'', '"', '[', '\x7b']

/-- Whether what stands after an equals sign is no value by itself. -/
def isLoose (value : List Char) : Except Fault Bool :=
  match value with
  | [] => .ok false
  | c :: _ =>
    if openings.contains c
      || Text.trim value = ['t', 'r', 'u', 'e'] || Text.trim value = ['f', 'a', 'l', 's', 'e']
      || Number.isFloat value then .ok false
    else (Moment.isWritten value).map (!·)

/-- Moves on to the next equals sign as long as the value is loose; `counts` are the numbers of
pieces that belong to the later keys. -/
def settle (pieces : List (List Char)) (key value : List Char) (tidy : Bool) :
    List Nat → Except Fault Entry
  | [] => .ok ⟨key, value, tidy⟩
  | count :: counts => do
    if !(← isLoose value) then .ok ⟨key, value, tidy⟩
    else
      let (nextKey, nextValue) := splitAt pieces count
      if nextValue = value then .error .badNumber
      else settle pieces nextKey nextValue (tidy && Number.isTidy nextValue) counts

/-- A value without its underscores, if it starts with a digit. -/
def dropUnderscores (value : List Char) : List Char :=
  if (value.head?.map Decimal.isDigit).getD false then value.filter (· ≠ '_') else value

/-- Splits an entry; blanks around its key and value are dropped. -/
def ofLine (line : List Char) : Except Fault Entry := do
  let pieces := Text.cut '=' line
  let first := 1 + Quoted.countBefore '=' false (Quoted.between line)
  let (key, value) := splitAt pieces first
  let counts := List.range' (first + 1) (pieces.length + 1)
  let entry ← settle pieces key (dropUnderscores value) (Number.isTidy value) counts
  .ok { entry with key := Text.trim entry.key, value := Text.trim entry.value }

/-- The names between the dots of a key. Dots in quotes do not count. -/
def levels (key : List Char) : List (List Char) :=
  if key.any Quoted.isQuote then ofPieces false (Quoted.between key) else Text.cut '.' key
where
  ofPieces (inside : Bool) : List (List Char) → List (List Char)
    | [] => []
    | piece :: more =>
      (if inside then [piece] else (Text.cut '.' piece).map Text.trim) ++ ofPieces (!inside) more

/-- The tables that a key with dots leads through, and the name of its value. -/
def dottedPath (key : List Char) : Except Fault (List String × String) :=
  match (levels key).reverse.dropWhile List.isEmpty with
  | [] => .error .pastArray
  | name :: before =>
    let path := before.reverse.filter fun level => !level.isEmpty
    .ok (path.map String.ofList, String.ofList (Text.trim name))

/-- The tables that the key of an entry leads through, and the name of its value. -/
def path (entry : Entry) : Except Fault (List String × String) :=
  if entry.key.contains '.' then dottedPath entry.key
  else
    match entry.key with
    | [] => .error .pastText
    | c :: _ =>
      if Quoted.isQuote c && entry.key.getLast? = some c then
        (Quoted.resolveLetters (Items.inside entry.key)).map fun name => ([], String.ofList name)
      else .ok ([], String.ofList entry.key)

/-- Whether a value goes on beyond its line: three quotes open a text and do not close it, or those
of the last text of an array without its closing bracket. -/
def goesOn (value : List Char) : Except Fault Bool := do
  let unclosed :=
    value.head? = some '[' && value.getLast? ≠ some ']' && Items.startsQuoted value
  if value.length < 3 then .ok false
  else if unclosed then
    match (Text.cut ',' (Text.trim (value.drop 1))).reverse with
    | [] => .ok false
    | piece :: before => opensTriple (← Items.lastText piece before)
  else opensTriple value
where
  opensTriple : List Char → Except Fault Bool
    | [] => .error .pastText
    | a :: rest =>
      if !Quoted.isQuote a then .ok false
      else
        match rest with
        | [] => .error .pastText
        | b :: rest =>
          if b ≠ a then .ok false
          else
            match rest with
            | [] => .error .pastText
            | c :: rest =>
              .ok (c = a && !(3 ≤ rest.length && (rest.reverse.take 3).all (· = a)))

end Entry

end TapeSwarm.Toml
