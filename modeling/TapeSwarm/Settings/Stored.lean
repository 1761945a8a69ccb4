import TapeSwarm.Settings.Basic
import TapeSwarm.Toml.Reader

/-!
Settings as they are stored: tables, the bundled text, and a store that reads a file again only when
its time stamp has changed.

A setting whose value has another type than the setting makes its table unfit. A missing file gives
an empty table and leaves what is remembered alone, and so does a file that cannot be read as a
table. The stamp remembered at first is zero.
-/

namespace TapeSwarm

/-- Why a table holds no settings. -/
inductive SettingFault where
  /-- What should be a table of settings is none. -/
  | noTable (part : String) (found : Toml.Value.Sort)
  /-- The value of a setting has another type. -/
  | otherType (part key : String) (found : Toml.Value.Sort)
  deriving DecidableEq, Repr

/-- The words for a fault. -/
def SettingFault.message : SettingFault → String
  | noTable part found => part ++ " must be a table, not " ++ found.name
  | otherType part key found => part ++ "." ++ key ++ " must not be of type " ++ found.name

/-- Why a stored text gives no settings. -/
inductive StoreFault where
  /-- The bytes are no text. -/
  | notText
  | toml (fault : Toml.Fault)
  | setting (fault : SettingFault)
  deriving DecidableEq, Repr

namespace Settings

/-- The value of a setting, as `read?` takes it. -/
def setting? {α : Type} (read? : Toml.Value → Option α) (table : Toml.Table) (part key : String) :
    Except SettingFault (Option α) :=
  match table.get? part with
  | none => .ok none
  | some (.table entries) =>
    match Toml.Table.get? entries key with
    | none => .ok none
    | some value =>
      match read? value with
      | none => .error (.otherType part key value.sort)
      | some setting => .ok (some setting)
  | some value => .error (.noTable part value.sort)

/-- The settings that a table holds. -/
def ofTable (table : Toml.Table) : Except SettingFault Settings := do
  let int := setting? Toml.Value.int? table
  let threshold := setting? Toml.Value.threshold? table
  let entity (part : String) : Except SettingFault EntitySettings := do
    .ok { runEvery := ← int part "run_every", maxSteps := ← int part "max_steps" }
  .ok
    { machine := { patternSize := ← int "vm" "pattern_size", maxSteps := ← int "vm" "max_steps" }
      organism := ← entity "organism"
      instructionRatio := ← threshold "organism" "op_ratio"
      food := ← entity "food"
      population :=
        { organisms := ← int "swarm" "organisms"
          food := ← int "swarm" "food"
          mutationRate := ← threshold "swarm" "mutation_rate" } }

/-- The text of the settings that come with the library. -/
def bundledText : String :=
  String.join
    [ "# Default settings. Edits are picked up on the next tick.\n",
      "\n[vm]\nmax_steps = 1000\npattern_size = 8\n",
      "\n[organism]\nrun_every = 5\nmax_steps = 100\nop_ratio = 0.03125\n",
      "\n[food]\nrun_every = 10\nmax_steps = 50\n",
      "\n[swarm]\norganisms = 16\nfood = 8\nmutation_rate = 0.01\n" ]

/-- The settings that come with the library. -/
def bundled : Except StoreFault Settings := do
  let table ← (Toml.parse bundledText.toList).mapError .toml
  (ofTable table).mapError .setting

end Settings

/-- A file with the time of its last change. -/
structure StampedFile where
  stamp : Float
  bytes : List UInt8

namespace StampedFile

/-- Seconds are counted from minus this to below this. -/
def secondsEnd : Float := 9223372036854775808.0

/-- The stamp that a time leaves on a file: whole thousand millionths of a second, rounded down.
None is left if its seconds cannot be counted. -/
def stampOf? (time : Float) : Option Float :=
  let whole := if time < 0 then time.ceil else time.floor
  let parts := ((time - whole) * 1e9).floor
  let (seconds, parts) :=
    if 1e9 ≤ parts then (whole + 1.0, parts - 1e9)
    else if parts < 0 then (whole - 1.0, parts + 1e9)
    else (whole, parts)
  if -secondsEnd ≤ seconds && seconds < secondsEnd then some (seconds + 1e-9 * parts) else none

/-- The table that a file holds. -/
def parse (bytes : List UInt8) : Except StoreFault Toml.Table :=
  match String.fromUTF8? ⟨bytes.toArray⟩ with
  | none => .error .notText
  | some text => (Toml.parse text.toList).mapError .toml

end StampedFile

/-- What was read from a file last, and the stamp that the file had then. -/
structure FileCache (α : Type) where
  stamp : Float
  content : α

namespace FileCache

variable {α ε : Type}

/-- A cache before anything was read. -/
def initial (content : α) : FileCache α := ⟨0, content⟩

/-- Reads a file through the cache; a file that is missing gives `absent`. -/
def load (parse : List UInt8 → Except ε α) (absent : α) (cache : FileCache α)
    (file : Option StampedFile) : FileCache α × Except ε α :=
  match file with
  | none => (cache, .ok absent)
  | some file =>
    if file.stamp == cache.stamp then (cache, .ok cache.content)
    else
      match parse file.bytes with
      | .error fault => (cache, .error fault)
      | .ok content => (⟨file.stamp, content⟩, .ok content)

end FileCache

end TapeSwarm
