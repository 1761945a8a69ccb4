import TapeSwarm.Text.Quoted

/-!
Paths of files, and why a file cannot be read.

A path is a list of names; empty names and single dots are dropped. Messages show a path in quotes,
and the path of no names as a single dot. A path from the root starts with one slash, or with two if
it was written with exactly two.
-/

namespace TapeSwarm.Storage

/-- A path from a root or from where the program runs. -/
structure Path where
  /-- The slashes in front: none, one or two. -/
  root : Nat
  names : List (List Char)
  deriving DecidableEq, Repr

namespace Path

/-- Splits a text at its slashes. -/
def splitSlashes (name : List Char) : List Char → List (List Char)
  | [] => [name.reverse]
  | c :: rest =>
    if c = '/' then name.reverse :: splitSlashes [] rest else splitSlashes (c :: name) rest

/-- The slashes that stand for the root of a text; three and more count as one. -/
def rootOf (text : List Char) : Nat :=
  let slashes := (text.takeWhile (· = '/')).length
  if slashes ≤ 2 then slashes else 1

/-- The path that a text writes. -/
def ofText (text : List Char) : Path where
  root := rootOf text
  names := (splitSlashes [] text).filter fun name => name ≠ [] && name ≠ ['.']

/-- The text of a path. -/
def toText (path : Path) : String :=
  let names := "/".intercalate (path.names.map String.ofList)
  if path.root = 0 && path.names.isEmpty then "."
  else String.ofList (List.replicate path.root '/') ++ names

end Path

/-- Why a file cannot be read. -/
inductive ReadFault where
  | missing
  | denied
  | notDirectory
  | isDirectory
  | nameTooLong
  /-- Whatever else a system reports, in its own words. -/
  | other (words : String)
  deriving DecidableEq, Repr

namespace ReadFault

/-- The words for a fault that systems know under a number and a name. -/
def named (number : Nat) (name : String) (path : Path) : String :=
  "[Errno " ++ toString number ++ "] " ++ name ++ ": " ++ Text.quoted path.toText

/-- The message about a fault at a path. -/
def message (fault : ReadFault) (path : Path) : String :=
  match fault with
  | missing => named 2 "No such file or directory" path
  | denied => named 13 "Permission denied" path
  | notDirectory => named 20 "Not a directory" path
  | isDirectory => named 21 "Is a directory" path
  | nameTooLong => named 36 "File name too long" path
  | other words => words

end ReadFault

/-- What reading the file at a path gives. -/
abbrev Reading := Path → Except ReadFault (List UInt8)

end TapeSwarm.Storage
