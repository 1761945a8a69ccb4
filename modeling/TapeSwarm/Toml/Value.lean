import TapeSwarm.Threshold
import TapeSwarm.Toml.Moment

/-!
Values of settings files, and tables of them.

A table keeps its entries in the order in which they were made and has each key once.
-/

namespace TapeSwarm.Toml

/-- A value of a settings file. -/
inductive Value where
  | integer (n : Int)
  | float (x : Float)
  | boolean (b : Bool)
  | text (s : String)
  | moment (m : Moment)
  | array (items : List Value)
  | table (entries : List (String × Value))
  deriving Inhabited

/-- A table of values. -/
abbrev Table := List (String × Value)

/-- The types of values. -/
inductive Value.Sort where
  | integer
  | float
  | boolean
  | text
  | date
  | dateTime
  | time
  | array
  | table
  deriving DecidableEq, Repr

/-- The word for a type. -/
def Value.Sort.name : Value.Sort → String
  | integer => "int"
  | float => "float"
  | boolean => "bool"
  | text => "str"
  | date => "datetime.date"
  | dateTime => "datetime.datetime"
  | time => "datetime.time"
  | array => "list"
  | table => "dict"

/-- Whether values of two types may stand in one array: those of one type, and days with times and
without. -/
def Value.Sort.goesWith : Value.Sort → Value.Sort → Bool
  | date, dateTime | dateTime, date => true
  | a, b => a = b

/-- The type of a value. -/
def Value.sort : Value → Value.Sort
  | integer _ => .integer
  | float _ => .float
  | boolean _ => .boolean
  | text _ => .text
  | moment (.date _) => .date
  | moment (.dateTime _ _ _) => .dateTime
  | moment (.time _) => .time
  | array _ => .array
  | table _ => .table

/-- A value that counts as a whole number. -/
def Value.int? : Value → Option Int
  | integer n => some n
  | boolean b => some (if b then 1 else 0)
  | _ => none

/-- A value that fractions may be compared with. -/
def Value.threshold? : Value → Option Threshold
  | float x => some (.double x)
  | v => v.int?.map Threshold.ofInt

namespace Table

/-- The value of a key. -/
def get? (table : Table) (key : String) : Option Value :=
  table.lookup key

/-- Changes the value of a key. -/
def replace (table : Table) (key : String) (value : Value) : Table :=
  table.map fun (k, v) => if k = key then (k, value) else (k, v)

end Table

end TapeSwarm.Toml
