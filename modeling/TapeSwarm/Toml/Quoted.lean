import TapeSwarm.Decimal.Digits
import TapeSwarm.Text.Pieces
import TapeSwarm.Toml.Fault

/-!
Quoted text in settings files.

Text in single quotes stands for itself. In double quotes a backslash starts an escape: a letter for
a control character, a quote or a backslash, or `u` or `U` and the hexadecimal digits of a code
point.

A quoted text is read in four steps. Nothing may follow its closing quote; every escape has to be a
known one; code points are put in, and then the letters are resolved, so that a backslash put in as
a code point escapes what follows. Last, the quotes come off: two at each end where two stand in
front, whether written there or put in, and then one more at each end.
-/

namespace TapeSwarm.Toml.Quoted

/-- Whether a character encloses text. -/
def isQuote (c : Char) : Bool :=
  c = '"' || c = '\''

/-- Whether a text, given backwards, ends in a backslash that escapes what follows. -/
def escapesNext (backwards : List Char) : Bool :=
  (backwards.takeWhile (· = '\\')).length % 2 = 1

/-! ## The closing quote -/

/-- How far the pieces between quotes have closed a text. -/
structure Closing where
  closed : Bool := false
  /-- Empty pieces in a row, where three quotes enclose the text. -/
  empties : Nat := 0

/-- One more piece. A piece that ends in an escaping backslash does not close. -/
def Closing.next (triple : Bool) (c : Closing) (piece : List Char) : Except Fault Closing :=
  if piece.isEmpty then
    .ok (if triple then { c with empties := c.empties + 1 } else { c with closed := true })
  else if escapesNext piece.reverse then .ok c
  else if c.closed then .error .afterText
  else if !triple || 1 < c.empties then .ok { c with closed := true }
  else .ok { c with empties := 0 }

/-- Checks that nothing follows the closing quote of a text, given without its opening quote. -/
def checkClosing (quote : Char) (text : List Char) : Except Fault Unit :=
  let close (triple : Bool) (pieces : List (List Char)) : Except Fault Unit :=
    (pieces.foldlM (Closing.next triple) {}).map fun _ => ()
  match Text.cut quote text with
  | [] :: [] :: pieces => close true pieces
  | pieces => close false pieces

/-! ## Escapes -/

/-- The character that a letter after a backslash stands for. -/
def ofLetter? : Char → Option Char
  | '0' => some '\x00'
  | 'b' => some '\x08'
  | 'f' => some '\x0c'
  | 'n' => some '\n'
  | 'r' => some '\r'
  | 't' => some '\t'
  | '"' => some '"'
  | '\\' => some '\\'
  | _ => none

/-- Whether a letter starts a code point after a backslash. -/
def isCodeLetter (c : Char) : Bool :=
  c = 'u' || c = 'U'

/-- Whether every backslash is followed by something that it may escape. -/
def areKnown : List Char → Bool
  | [] => true
  | [_] => true
  | c :: d :: rest =>
    if c = '\\' then ((ofLetter? d).isSome || isCodeLetter d) && areKnown rest
    else areKnown (d :: rest)

/-- Resolves the letters after backslashes. Code points are left as they are. -/
def resolveLetters : List Char → Except Fault (List Char)
  | [] => .ok []
  | [c] => .ok [c]
  | c :: d :: rest =>
    if c = '\\' then
      match ofLetter? d with
      | some resolved => (resolveLetters rest).map (resolved :: ·)
      | none =>
        if isCodeLetter d then (resolveLetters rest).map fun more => c :: d :: more
        else .error .badEscape
    else (resolveLetters (d :: rest)).map (c :: ·)

/-- The pieces of a text between the places where a backslash stands before a letter. -/
def cutAtEscape (letter : Char) : List Char → List (List Char)
  | [] => [[]]
  | [c] => [[c]]
  | c :: d :: rest =>
    if c = '\\' ∧ d = letter then [] :: cutAtEscape letter rest
    else
      match cutAtEscape letter (d :: rest) with
      | [] => [[c]]
      | piece :: more => (c :: piece) :: more

/-- The largest number of an escape that is looked at as a code point. -/
def largestCode : Nat := 2147483647

/-- The character that hexadecimal digits stand for. Surrogates have none. -/
def ofCode (digits : List Char) : Except Fault Char :=
  match Decimal.ofDigits? 16 digits, digits with
  | none, _ => .error .badEscape
  | some _, [] => .error .pastText
  | some code, first :: rest =>
    if first.toLower = 'd' && rest.isEmpty then .error .pastText
    else if first.toLower = 'd' && !(rest.take 1).all (fun c => '0' ≤ c && c ≤ '7') then
      .error .badEscape
    else if largestCode < code then .error .hugeCodePoint
    else if code.isValidChar then .ok (Char.ofNat code)
    else .error .badEscape

/-- Puts code points of `length` digits in front of the pieces that start with their digits. A piece
is left as it was, together with the mark before it, if the backslash of the mark is `escaped`. -/
def putCodes (letter : Char) (length : Nat) (escaped : Bool) :
    List (List Char) → Except Fault (List Char)
  | [] => .ok []
  | piece :: more =>
    if escaped then
      (putCodes letter length (escapesNext piece.reverse) more).map
        fun rest => '\\' :: letter :: piece ++ rest
    else do
      let c ← ofCode (piece.take length)
      let rest ← putCodes letter length false more
      .ok (c :: piece.drop length ++ rest)

/-- Resolves the code points that a letter and `length` digits write. -/
def resolveCodes (letter : Char) (length : Nat) (text : List Char) : Except Fault (List Char) :=
  match cutAtEscape letter text with
  | [] => .ok []
  | first :: more =>
    (putCodes letter length (escapesNext first.reverse) more).map (first ++ ·)

/-- The text with all escapes resolved. -/
def resolve (text : List Char) : Except Fault (List Char) := do
  if areKnown text then
    let text ← resolveCodes 'u' 4 text
    let text ← resolveCodes 'U' 8 text
    resolveLetters text
  else .error .badEscape

/-! ## Whole texts -/

/-- Takes the quotes off a text. -/
def strip (quote : Char) (text : List Char) : List Char :=
  let doubled := text[1]? = some quote && (text[2]?.all (· = quote))
  let text := if doubled then (text.drop 2).dropLast.dropLast else text
  (text.drop 1).dropLast

/-- Reads a quoted text that starts with its opening quote. -/
def read (quote : Char) (text : List Char) : Except Fault String := do
  checkClosing quote (text.drop 1)
  let text ← if quote = '"' then resolve text else .ok text
  .ok (String.ofList (strip quote text))

/-! ## Pieces between quotes -/

/-- Cuts at double quotes and, up to the first of them, at single quotes. -/
def spread : List (List Char) → List (List Char)
  | [] => []
  | piece :: more => Text.cut '\'' piece ++ more

/-- Goes on after single quotes: as long as one of them is open, double quotes count as text. -/
def closeSingles (singles : List (List Char)) : List (List Char) → List (List Char)
  | [] => singles
  | piece :: more =>
    if singles.length % 2 = 0 then
      closeSingles
        (singles.dropLast ++ Text.cut '\'' (singles.getLast?.getD [] ++ '"' :: piece)) more
    else singles ++ spread (piece :: more)

/-- The pieces of a line between quotes: outside of quotes and inside of them, by turns. -/
def between (line : List Char) : List (List Char) :=
  match Text.cut '"' line with
  | first :: piece :: more =>
    if first.contains '\'' then closeSingles (Text.cut '\'' first) (piece :: more)
    else spread (first :: piece :: more)
  | pieces => spread pieces

/-- How many marks stand before the first one outside of quotes, where pieces come by turns. -/
def countBefore (mark : Char) (inside : Bool) : List (List Char) → Nat
  | [] => 0
  | piece :: more =>
    if !inside && piece.contains mark then 0
    else piece.count mark + countBefore mark (!inside) more

end TapeSwarm.Toml.Quoted
