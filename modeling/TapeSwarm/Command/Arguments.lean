import TapeSwarm.Decimal.Numeral

/-!
Command line arguments.

An argument is a word, an option or a separator. Options start with two hyphens; they may be cut to
any beginning that fits one option alone, and take their value after `=` or as the next word. One
more option asks for help; it may also be written `-h`, with anything right behind. What else looks
like a negative number or holds a space is a word. After the first separator `--` there are only
words; the separator has to stand right before or right after the one positional word. A separator
after `=` gives its option nothing at all.
-/

namespace TapeSwarm.Command

/-- An option: its name with both hyphens, and whether it takes a value. -/
structure OptionName where
  name : List Char
  takesValue : Bool
  deriving DecidableEq, Repr

/-- The option that asks for help, which every command has. -/
def helpOption : OptionName := ⟨['-', '-', 'h', 'e', 'l', 'p'], false⟩

/-- An argument, seen by itself. -/
inductive Argument where
  | word (text : List Char)
  /-- An option, with the value after `=` if there is one. -/
  | option (which : OptionName) (value : Option (List Char))
  /-- No option of the command, or the one that asks for help: the command is not carried out. -/
  | unknown
  | separator
  deriving DecidableEq, Repr

/-- Whether a text is a hyphen and a decimal without sign and exponent. A line break may follow. -/
def looksNegative (text : List Char) : Bool :=
  match text with
  | '-' :: number =>
    let number := if number.getLast? = some '\n' then number.dropLast else number
    let whole := number.takeWhile Decimal.Numeral.isAnyDigit
    match number.dropWhile Decimal.Numeral.isAnyDigit with
    | [] => !whole.isEmpty
    | '.' :: places => !places.isEmpty && places.all Decimal.Numeral.isAnyDigit
    | _ => false
  | _ => false

/-- The part of an argument before `=`, and the part after it if there is one. -/
def splitEquals (text : List Char) : List Char × Option (List Char) :=
  match text.dropWhile (· ≠ '=') with
  | [] => (text, none)
  | _ :: value => (text.takeWhile (· ≠ '='), some value)

/-- The options that a text may stand for: the one of that name, else all that begin with it. -/
def candidates (options : List OptionName) (text : List Char) : List OptionName :=
  match options.find? (·.name = text) with
  | some exact => [exact]
  | none => options.filter fun o => text.isPrefixOf o.name

/-- What an argument is that is no separator. -/
def classify (options : List OptionName) (text : List Char) : Argument :=
  match text with
  | '-' :: '-' :: _ =>
    let (name, value) := splitEquals text
    match candidates (helpOption :: options) name with
    | [which] => if which = helpOption then .unknown else .option which value
    | _ :: _ :: _ => .unknown
    | [] => bare text
  | '-' :: 'h' :: _ => .unknown
  | '-' :: _ :: _ => bare text
  | _ => .word text
where
  bare (text : List Char) : Argument :=
    if looksNegative text || text.contains ' ' then .word text else .unknown

/-- What the arguments of a command line are. -/
def classifyAll (options : List OptionName) : List (List Char) → List Argument
  | [] => []
  | text :: rest =>
    if text = ['-', '-'] then .separator :: rest.map .word
    else classify options text :: classifyAll options rest

/-- What was given: the positional word and the options in the order of the command line. A switch
has no value, and neither has an option that was given the separator. -/
structure Given where
  positional : Option (List Char) := none
  options : List (OptionName × Option (List Char)) := []

/-- Collects what arguments give; `none` where they do not fit together. `positionals` says whether
a positional word is still wanted. -/
def collect (wanted : Bool) (given : Given) : List Argument → Option Given
  | [] => some given
  | .word text :: .separator :: rest =>
    if wanted then collect false { given with positional := some text } rest else none
  | .word text :: rest =>
    if wanted then collect false { given with positional := some text } rest else none
  | .separator :: .word text :: rest =>
    if wanted then collect false { given with positional := some text } rest else none
  | .separator :: _ => none
  | .option which value :: rest =>
    if which.takesValue then
      match value, rest with
      | some value, rest =>
        collect wanted (add which (if value = ['-', '-'] then none else some value)) rest
      | none, .word value :: rest => collect wanted (add which (some value)) rest
      | none, _ => none
    else if value.isNone then collect wanted (add which none) rest
    else none
  | .unknown :: _ => none
where
  add (which : OptionName) (value : Option (List Char)) : Given :=
    { given with options := given.options ++ [(which, value)] }

/-- What an option for an integer is given. -/
inductive Amount where
  | number (n : Int)
  /-- The separator in the place of an integer. -/
  | blank
  deriving DecidableEq, Repr

/-- Reads an integer: blanks at both ends, a sign, single underscores between digits. -/
def readInt? (text : List Char) : Option Int :=
  Decimal.Numeral.integer? (Decimal.Numeral.plain text)

/-- Reads what an option for an integer is given. -/
def Amount.read? : Option (List Char) → Option Amount
  | none => some .blank
  | some text => (readInt? text).map .number

namespace Given

/-- What an option is given each time, in order. -/
def values (given : Given) (which : OptionName) : List (Option (List Char)) :=
  (given.options.filter (·.1 = which)).map (·.2)

/-- Whether a switch was given. -/
def has (given : Given) (which : OptionName) : Bool :=
  !(given.values which).isEmpty

/-- The text given to an option, the last one counting; without one it is empty. -/
def text (given : Given) (which : OptionName) : List Char :=
  ((given.values which).getLast?.join).getD []

/-- The amount given to an option, the last one counting; `none` where one of them is no integer,
`some none` where none is given. -/
def amount? (given : Given) (which : OptionName) : Option (Option Amount) :=
  ((given.values which).mapM Amount.read?).map (·.getLast?)

end Given

end TapeSwarm.Command
