import TapeSwarm.Text.Alphanumeric
import TapeSwarm.Text.Blank
import TapeSwarm.Toml.Quoted

/-!
The logical lines of a settings text.

A line ends at a line break outside of brackets; a break inside an array counts as a blank, and so
does every character of a comment. A bracket at the front of a line opens a header, any other one an
array; what stands in quotes is neither bracket nor comment, and quotes must close before the line
breaks, but for those that come by three.

A line that opens no header starts with a key. The first character of a key may be any but an equals
sign. If it is a quote the key goes on to the closing quote, otherwise letters, numbers, `_`, `-`
and dots may follow. Only blanks may stand between the key and its equals sign.
-/

namespace TapeSwarm.Toml.Line

/-- Where on its line a scan stands. -/
inductive Place where
  /-- Only blanks were seen. -/
  | front
  | bareKey
  | quotedKey
  /-- A key is over, its equals sign has not come. -/
  | keyEnd
  | rest
  deriving DecidableEq, Repr

/-- How a scan stands. -/
structure State where
  place : Place := .front
  /-- Whether the key has a dot. -/
  dotted : Bool := false
  /-- The quote that is open. -/
  quote : Option Char := none
  /-- Whether three quotes are open. -/
  triple : Bool := false
  /-- Array brackets that are open. -/
  depth : Int := 0
  /-- Header brackets that are open. -/
  header : Nat := 0
  inComment : Bool := false
  /-- What quotes find before their line, backwards: before the first line, the end of the text. -/
  beyond : List Char := []

/-- What a quote finds before it: its line so far, backwards, and what is beyond the line where that
is nothing but such quotes and backslashes. -/
def behind (s : State) (line : List Char) (c : Char) : List Char :=
  if line.all (fun d => d = c || d = '\\') then line ++ s.beyond else line

/-- The state after a quote; `line` is the line so far, backwards. The last of three quotes opens or
closes all three. A double quote may be escaped unless it is the second in a row. -/
def afterQuote (s : State) (line : List Char) (c : Char) : State :=
  let before := behind s line c
  let run := (before.takeWhile (· = c)).length
  if c = '"' && run ≠ 1 && Quoted.escapesNext (before.drop (min run 2)) then s
  else if 2 ≤ run then
    { s with triple := !s.triple, quote := if s.triple then none else some c }
  else { s with quote := if s.quote.isSome then none else some c }

/-- The state after a bracket outside of quotes; `following` is the next character. -/
def afterBracket (s : State) (before : List Char) (c : Char) (following : Option Char) : State :=
  if c = '[' then
    if s.header ≠ 0 then s
    else if s.place = .front then { s with header := if following = some '[' then 2 else 1 }
    else { s with depth := s.depth + 1 }
  else if s.header = 0 then { s with depth := s.depth - 1 }
  else if s.header = 1 || before.head? = some ']' then { s with header := 0 }
  else s

/-- The state after a character that is not part of a key yet. -/
def outside (s : State) (before : List Char) (c : Char) (following : Option Char) :
    Except Fault State :=
  let s :=
    if Quoted.isQuote c && (s.quote.isNone || s.quote = some c) then afterQuote s before c
    else if (c = '[' || c = ']') && s.quote.isNone then afterBracket s before c following
    else s
  if s.place ≠ .front || c = ' ' || c = '\t' then .ok s
  else if s.header ≠ 0 then .ok { s with place := .rest }
  else if c = '=' then .error .emptyKey
  else .ok { s with place := if s.quote.isSome then .quotedKey else .bareKey }

/-- The state after a dot of a key that was over, or a blank after it: the key may go on. -/
def reopen (s : State) (following : Option Char) : Except Fault State :=
  match following with
  | none => .error .pastArray
  | some c => .ok (if Text.isBlank c || c = '.' then s else { s with place := .bareKey })

/-- The state after a character of a key without quotes. -/
def inBareKey (s : State) (before : List Char) (c : Char) : Except Fault State :=
  if Text.isBlank c then .ok { s with place := .keyEnd }
  else if c = '.' then .ok { s with dotted := true }
  else if Text.isAlphanumeric c || c = '_' || c = '-' then .ok s
  else if s.dotted && before.head? = some '.' && Quoted.isQuote c then
    .ok { s with place := .quotedKey, quote := some c }
  else if c = '=' then .ok { s with place := .rest, dotted := false }
  else .error .badKey

/-- The state after a character between a key and its equals sign. -/
def afterKey (s : State) (c : Char) (following : Option Char) : Except Fault State :=
  if c = '.' then reopen { s with dotted := true } following
  else if Text.isBlank c then if s.dotted then reopen s following else .ok s
  else if c = '=' then .ok { s with place := .rest, dotted := false }
  else .error .badKey

/-- The state after a character that breaks no line. -/
def next (s : State) (before : List Char) (c : Char) (following : Option Char) :
    Except Fault State :=
  match s.place with
  | .front | .rest => outside s before c following
  | .bareKey => inBareKey s before c
  | .quotedKey =>
    if s.quote = some c && !Quoted.escapesNext before then
      .ok { s with place := .keyEnd, quote := none }
    else .ok s
  | .keyEnd => afterKey s c following

/-- Whether a scan stands in or after a key without its equals sign. -/
def awaitsEquals (s : State) : Bool :=
  s.place ≠ .front && s.place ≠ .rest

/-- Whether a character opens a comment. -/
def opensComment (s : State) (c : Char) : Bool :=
  c = '#' && s.quote.isNone && s.header = 0 && !awaitsEquals s

/-- What a line break inside three quotes does to the line so far, backwards: after two quotes it
becomes one more of them, and a third one before these is lost. -/
def breakTriple : List Char → Option (List Char)
  | a :: b :: more =>
    if Quoted.isQuote a && a = b then
      some (a :: a :: b :: match more with
        | c :: more => (if c = a then ' ' else c) :: more
        | [] => [])
    else none
  | _ => none

/-- Splits on from a state; `line` holds the characters of the line so far, backwards. -/
def splitFrom (s : State) (line : List Char) : List Char → Except Fault (List (List Char))
  | [] =>
    if awaitsEquals s then .error .badKey
    else if s.quote.isSome then .error .openText
    else .ok [line.reverse]
  | c :: rest =>
    if c = '\n' then
      if awaitsEquals s then .error .badKey
      else if s.triple then
        let s := { s with inComment := false }
        match breakTriple line with
        | some line => splitFrom s line rest
        | none => (splitFrom { s with beyond := [] } [] rest).map (line.reverse :: ·)
      else if s.quote.isSome then .error .openText
      else if s.depth ≠ 0 then splitFrom { s with inComment := false } (' ' :: line) rest
      else
        (splitFrom { s with inComment := false, place := .front, beyond := [] } [] rest).map
          (line.reverse :: ·)
    else if s.inComment then splitFrom s (' ' :: line) rest
    else if opensComment s c then splitFrom { s with inComment := true } (' ' :: line) rest
    else
      match next s line c rest.head? with
      | .error fault => .error fault
      | .ok s => splitFrom s (c :: line) rest

/-- The logical lines of a text. -/
def split (text : List Char) : Except Fault (List (List Char)) :=
  splitFrom { beyond := text.reverse } [] text

/-- Text in which every kind of line break is a single one. -/
def unifyBreaks : List Char → List Char
  | [] => []
  | '\r' :: '\n' :: rest => '\n' :: unifyBreaks rest
  | '\r' :: rest => '\n' :: unifyBreaks rest
  | c :: rest => c :: unifyBreaks rest

end TapeSwarm.Toml.Line
