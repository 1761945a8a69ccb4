import TapeSwarm.Storage.Path

/-!
A directory held in memory, read in the same way as one on disk.

A path is followed name by name: every name on the way has to be a directory, the last one a file.
-/

namespace TapeSwarm.Storage

/-- An entry at a path below a directory: a file with its bytes, or a directory. -/
structure DirectoryEntry where
  names : List (List Char)
  bytes : Option (List UInt8)

/-- A directory: the files and directories anywhere below it. -/
abbrev Directory := List DirectoryEntry

namespace Directory

/-- What a list of names leads to. -/
inductive Target where
  | absent
  | directory
  | file (bytes : List UInt8)

/-- What a list of names without dots leads to. -/
def target (directory : Directory) (names : List (List Char)) : Target :=
  match directory.find? (·.names = names) with
  | some ⟨_, some bytes⟩ => .file bytes
  | some ⟨_, none⟩ => .directory
  | none =>
    if names.isEmpty || directory.any (fun e => names.isPrefixOf e.names) then .directory
    else .absent

/-- The most bytes a name may have. -/
def longestName : Nat := 255

/-- The most bytes a path may have. -/
def longestPath : Nat := 4095

/-- Whether a name has more bytes than it may have. -/
def isTooLong (name : List Char) : Bool :=
  longestName < (String.ofList name).utf8ByteSize

/-- Follows names outside of the directory, where nothing but the directories above it is known. -/
def followOutside : List (List Char) → ReadFault
  | [] => .isDirectory
  | name :: rest =>
    if isTooLong name then .nameTooLong
    else if name = ['.', '.'] then followOutside rest
    else .missing

/-- Follows names from what `before` leads to. -/
def follow (directory : Directory) (before : List (List Char)) :
    List (List Char) → Except ReadFault (List UInt8)
  | [] =>
    match directory.target before with
    | .file bytes => .ok bytes
    | .directory => .error .isDirectory
    | .absent => .error .missing
  | name :: rest =>
    match directory.target before with
    | .file _ => .error .notDirectory
    | .absent => .error .missing
    | .directory =>
      if isTooLong name then .error .nameTooLong
      else if name = ['.', '.'] then
        if before.isEmpty then .error (followOutside rest)
        else directory.follow before.dropLast rest
      else directory.follow (before ++ [name]) rest

/-- Reads the file at a path. Of what lies below a root nothing is known. -/
def read (directory : Directory) : Reading := fun path =>
  if longestPath < path.toText.utf8ByteSize then .error .nameTooLong
  else if path.root = 0 then directory.follow [] path.names
  else .error (followOutside path.names)

end Directory

end TapeSwarm.Storage
