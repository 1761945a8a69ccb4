import TapeSwarm.Toml.Entry
import TapeSwarm.Toml.Header
import TapeSwarm.Toml.Line
import TapeSwarm.Toml.OpenText

/-!
Reading settings files: comments, headers of tables, and entries with numbers, truth values, quoted
texts, moments and arrays of one type.

A header makes its table and those on the way to it. A table may be made once more by a header of
its own if it came about on the way to another; no key is given twice. Names lead through tables
only: another value on the way is a fault of its own kind, which depends on the value.
-/

namespace TapeSwarm.Toml

/-! ## Values -/

/-- Reads items in turn and checks each against the type of the first. -/
def readItems (readItem : List Char → Except Fault Value) :
    Option Value.Sort → List (List Char) → Except Fault (List Value)
  | _, [] => .ok []
  | sort, item :: more => do
    let value ← readItem item
    if sort.all (·.goesWith value.sort) then
      let values ← readItems readItem (some value.sort) more
      .ok (value :: values)
    else .error .mixedArray

/-- Reads a value; `depth` is how deep arrays may stand in it. A number that is not `tidy` is
refused. -/
def readNested (depth : Nat) (tidy : Bool) (text : List Char) : Except Fault Value :=
  match depth, text with
  | 0, _ => .error .tooDeep
  | _, [] => .error .emptyValue
  | depth + 1, c :: _ =>
    if text = ['t', 'r', 'u', 'e'] then .ok (.boolean true)
    else if text = ['f', 'a', 'l', 's', 'e'] then .ok (.boolean false)
    else if Quoted.isQuote c then (Quoted.read c text).map .text
    else if c = '[' then do
      let values ← readItems (readNested depth true) none (← Items.ofArray text)
      .ok (.array values)
    else do
      match ← Moment.read? text with
      | some moment => .ok (.moment moment)
      | none =>
        match Number.read? text with
        | some value => if tidy then .ok value else .error .badNumber
        | none => .error .badNumber

/-- How deep arrays may stand in each other. -/
def deepest : Nat := 494

/-- Reads a value that is not in an array. -/
def readValue (tidy : Bool) (text : List Char) : Except Fault Value :=
  readNested (deepest + 1) tidy text

/-! ## Tables -/

/-- The fault of looking for a name in a value that is no table. -/
def Value.nameFault (name : String) : Value → Fault
  | .text s =>
    if Text.isPart name.toList s.toList then .asTextIndex else .inText
  | .array _ => .asArrayIndex
  | value => .inScalar value.sort

/-- The fault of a header that leads through a value that is no table: of a text its last character
is asked for the name, of an array its last item. -/
def Value.headerFault (name : String) : Value → Fault
  | .text s =>
    match s.toList.getLast? with
    | some c => Value.nameFault name (.text c.toString)
    | none => .pastText
  | .array items =>
    match items.getLast? with
    | some item => item.nameFault name
    | none => .pastArray
  | value => .throughScalar value.sort

/-- Makes the table at a path. `implied` names the tables made on the way to others. -/
def openTable : List String → Table → List String → Except Fault (Table × List String)
  | [], table, implied => .ok (table, implied)
  | name :: path, table, implied =>
    if name.isEmpty then .error .badHeader
    else
      match table.get? name, path with
      | none, _ => do
        let implied := if path.isEmpty then implied else name :: implied
        let (inner, implied) ← openTable path [] implied
        .ok (table ++ [(name, .table inner)], implied)
      | some _, [] =>
        if implied.contains name then .ok (table, implied.erase name) else .error .duplicateTable
      | some (.table inner), _ :: _ => do
        let (inner, implied) ← openTable path inner implied
        .ok (table.replace name (.table inner), implied)
      | some value, next :: _ =>
        .error (if next.isEmpty then .badHeader else value.headerFault next)

/-- Makes the tables that the path of a key leads through, as far as there are none. -/
def makeWay : List String → Table → Except Fault Table
  | [], table => .ok table
  | name :: path, table =>
    match table.get? name, path with
    | none, _ => do
      let inner ← makeWay path []
      .ok (table ++ [(name, .table inner)])
    | some (.table inner), _ => do
      let inner ← makeWay path inner
      .ok (table.replace name (.table inner))
    | some _, [] => .ok table
    | some value, next :: _ => .error (value.nameFault next)

/-- Gives a key a value in the table at a path. -/
def insertAt : List String → String → Value → Table → Except Fault Table
  | [], key, value, table =>
    match table.get? key with
    | some _ => .error .duplicateKey
    | none => .ok (table ++ [(key, value)])
  | name :: path, key, value, table =>
    match table.get? name with
    | some (.table inner) => do
      let inner ← insertAt path key value inner
      .ok (table.replace name (.table inner))
    | _ => .error .duplicateKey

/-- Checks that a key has no value yet in the table at a path. -/
def checkFree (path : List String) (key : String) (table : Table) : Except Fault Unit :=
  (insertAt path key (.boolean false) table).map fun _ => ()

/-- Gives a key a value in the table at a path, in place of one that it may have. -/
def assignAt : List String → String → Value → Table → Table
  | [], key, value, table =>
    match table.get? key with
    | some _ => table.replace key value
    | none => table ++ [(key, value)]
  | name :: path, key, value, table =>
    match table.get? name with
    | some (.table inner) => table.replace name (.table (assignAt path key value inner))
    | _ => table

/-! ## Texts -/

/-- What reading has made so far. -/
structure Reading where
  root : Table := []
  /-- The table that entries go to. -/
  path : List String := []
  implied : List String := []
  /-- The text that takes in the next lines. -/
  openText : Option OpenText := none

/-- Reads an entry into the table that entries go to. A text that goes on is given to its key when
it is closed, in that same table, whatever tables the key leads through. -/
def Reading.readEntry (r : Reading) (line : List Char) : Except Fault Reading := do
  let entry ← Entry.ofLine line
  let (way, key) ← entry.path
  let path := r.path ++ way
  let root ← if way.isEmpty then .ok r.root else makeWay path r.root
  if ← Entry.goesOn entry.value then
    checkFree path key root
    if key.isEmpty then .error .unnamedText
    else .ok { r with root, openText := some (OpenText.ofText key entry.value) }
  else
    let value ← readValue entry.tidy entry.value
    let root ← insertAt path key value root
    .ok { r with root }

/-- Takes one more line into a text that goes on. -/
def Reading.continueText (r : Reading) (text : OpenText) (line : List Char) :
    Except Fault Reading := do
  match ← text.next line with
  | .goesOn text => .ok { r with openText := some text }
  | .closed key text =>
    let value ← readValue true text
    .ok { r with root := assignAt r.path key value r.root, openText := none }

/-- Reads one logical line. No key starts with a brace; a line without an equals sign, which only
three open quotes can leave behind, says nothing. -/
def Reading.startLine (r : Reading) (line : List Char) : Except Fault Reading :=
  match Text.trim line with
  | [] => .ok r
  | '[' :: header => do
    let path ← Header.path header
    let (root, implied) ← openTable path r.root r.implied
    .ok { r with root, path, implied }
  | '\x7b' :: _ => .error .badKey
  | entry => if entry.contains '=' then r.readEntry entry else .ok r

/-- Reads one logical line, into the text that goes on if there is one. -/
def Reading.readLine (r : Reading) (line : List Char) : Except Fault Reading :=
  match r.openText with
  | some text => r.continueText text line
  | none => r.startLine line

/-- The table that a text writes. A text that is never closed is left out. -/
def parse (text : List Char) : Except Fault Table := do
  let lines ← Line.split (Line.unifyBreaks text)
  let r ← lines.foldlM Reading.readLine {}
  .ok r.root

end TapeSwarm.Toml
