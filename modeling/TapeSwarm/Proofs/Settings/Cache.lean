import TapeSwarm.Settings.Stored

/-!
# A file read through a cache

A cache reads a file again unless the file carries the stamp that it remembers. Where different
contents never carry the same stamp, what it remembers is what reading the file once more would
give, whatever was written, deleted or refused in between: the stamp and the content of a cache are
those of a file that was there (`Remembers`), and every action keeps this up (`Remembers.act`).

One stamp is an exception. A cache that has read nothing yet remembers the stamp zero, so that it
takes a file with this stamp for one it has read, and answers as if there were none. `hasRead` tells
whether a history has got past this: some load has taken in a file with another stamp.

Results:
1. `answer_eq_fresh_iff`: exactly when the cache answers what the file holds.
2. `answer_unread_zero`: a file with the stamp zero that is not read.
-/

namespace TapeSwarm

/-! ## Histories of a file -/

/-- What can happen to a file and to the cache in front of it. -/
inductive FileAction where
  | write (file : StampedFile)
  | delete
  | load

/-- The files that a history writes. -/
def FileAction.written (history : List FileAction) : List StampedFile :=
  history.filterMap fun
    | .write file => some file
    | .delete | .load => none

/-- Files with the same stamp have the same content. -/
def Unambiguous (files : List StampedFile) : Prop :=
  ∀ f ∈ files, ∀ g ∈ files, (f.stamp == g.stamp) = true → f.bytes = g.bytes

instance (files : List StampedFile) : Decidable (Unambiguous files) :=
  inferInstanceAs (Decidable
    (∀ f ∈ files, ∀ g ∈ files, (f.stamp == g.stamp) = true → f.bytes = g.bytes))

/-- A file, if there is one, and the cache that it is read through. -/
structure CachedFile (α : Type) where
  file : Option StampedFile
  cache : FileCache α

namespace CachedFile

variable {α ε : Type} (parse : List UInt8 → Except ε α) (absent : α)

/-- No file, and a cache before anything was read. -/
def start : CachedFile α :=
  ⟨none, .initial absent⟩

/-- What a load answers. -/
def answer (c : CachedFile α) : Except ε α :=
  (c.cache.load parse absent c.file).2

/-- What reading the file without a cache answers. -/
def fresh (c : CachedFile α) : Except ε α :=
  match c.file with
  | none => .ok absent
  | some file => parse file.bytes

def act (c : CachedFile α) : FileAction → CachedFile α
  | .write file => { c with file := some file }
  | .delete => { c with file := none }
  | .load => { c with cache := (c.cache.load parse absent c.file).1 }

def after (c : CachedFile α) (history : List FileAction) : CachedFile α :=
  history.foldl (act parse absent) c

/-- Whether an action is a load that takes in a file with another stamp than zero. -/
def reads (c : CachedFile α) : FileAction → Bool
  | .write _ | .delete => false
  | .load =>
    match c.file with
    | none => false
    | some file => !(file.stamp == 0) && (parse file.bytes).isOk

/-- Whether a history has such a load. -/
def hasRead (c : CachedFile α) : List FileAction → Bool
  | [] => false
  | action :: rest => c.reads parse action || (c.act parse absent action).hasRead rest

variable {parse absent} {c : CachedFile α}

theorem fresh_of_none (missing : c.file = none) : c.fresh parse absent = .ok absent := by
  rw [fresh, missing]

theorem fresh_of_some {file : StampedFile} (present : c.file = some file) :
    c.fresh parse absent = parse file.bytes := by
  rw [fresh, present]

theorem reads_of_none (missing : c.file = none) : c.reads parse .load = false := by
  rw [reads, missing]

theorem reads_of_some {file : StampedFile} (present : c.file = some file) :
    c.reads parse .load = (!(file.stamp == 0) && (parse file.bytes).isOk) := by
  rw [reads, present]

theorem after_append (c : CachedFile α) (earlier later : List FileAction) :
    c.after parse absent (earlier ++ later) =
      (c.after parse absent earlier).after parse absent later :=
  List.foldl_append

/-! ## One load -/

variable (parse absent) in
/-- What a load can do: what it leaves, and what it answers. -/
inductive Loads (c : CachedFile α) : CachedFile α → Except ε α → Prop
  | missing : c.file = none → Loads c c (.ok absent)
  | kept {file : StampedFile} : c.file = some file → (file.stamp == c.cache.stamp) = true →
      Loads c c (.ok c.cache.content)
  | refused {file : StampedFile} {fault : ε} : c.file = some file →
      (file.stamp == c.cache.stamp) = false → parse file.bytes = .error fault →
      Loads c c (.error fault)
  | taken {file : StampedFile} {content : α} : c.file = some file →
      (file.stamp == c.cache.stamp) = false → parse file.bytes = .ok content →
      Loads c { c with cache := ⟨file.stamp, content⟩ } (.ok content)

variable (parse absent) in
theorem loads (c : CachedFile α) :
    Loads parse absent c (c.act parse absent .load) (c.answer parse absent) := by
  obtain ⟨_ | file, cache⟩ := c
  · exact .missing rfl
  · unfold act answer FileCache.load
    dsimp only
    split
    · next same => exact .kept rfl same
    · next other =>
      rw [Bool.not_eq_true] at other
      split
      · next fault parsed => exact .refused rfl other parsed
      · next content parsed => exact .taken rfl other parsed

/-- A load that finds no file, or one that cannot be parsed, leaves the cache as it was. -/
theorem act_load_of_failed
    (failed : c.file = none ∨ ∃ fault, c.answer parse absent = .error fault) :
    c.act parse absent .load = c := by
  have load := loads parse absent c
  generalize c.act parse absent .load = next at load ⊢
  generalize c.answer parse absent = answer at load failed
  cases load with
  | missing | kept | refused => rfl
  | taken present =>
    rcases failed with missing | ⟨_, refused⟩
    · rw [missing] at present
      contradiction
    · contradiction

/-! ## What a cache remembers -/

variable (parse absent) in
/-- The file is one of those that were written. The cache is as it was at first, or it remembers the
stamp and the content of a file that was written; `read` tells which. -/
structure Remembers (files : List StampedFile) (read : Bool) (c : CachedFile α) : Prop where
  current : ∀ file, c.file = some file → file ∈ files
  unread : read = false → c.cache = .initial absent
  content : read = true →
    ∃ file ∈ files, c.cache.stamp = file.stamp ∧ parse file.bytes = .ok c.cache.content

variable {files : List StampedFile} {read : Bool}

theorem remembers_start : (start absent).Remembers parse absent files false where
  current := fun _ none => nomatch none
  unread := fun _ => rfl
  content := fun read => nomatch read

theorem Remembers.replace (remembers : c.Remembers parse absent files read)
    {file : Option StampedFile} (written : ∀ f, file = some f → f ∈ files) :
    Remembers parse absent files read { c with file } where
  current := written
  unread := remembers.unread
  content := remembers.content

/-- A cache that takes in a file remembers it. -/
theorem Remembers.take (remembers : c.Remembers parse absent files read) {file : StampedFile}
    (present : c.file = some file) {content : α} (parsed : parse file.bytes = .ok content) :
    Remembers parse absent files true { c with cache := ⟨file.stamp, content⟩ } where
  current := remembers.current
  unread := fun unread => nomatch unread
  content := fun _ => ⟨file, remembers.current file present, rfl, parsed⟩

theorem Remembers.load (remembers : c.Remembers parse absent files read) :
    (c.act parse absent .load).Remembers parse absent files (read || c.reads parse .load) := by
  have load := loads parse absent c
  generalize c.act parse absent .load = next at load ⊢
  generalize c.answer parse absent = answer at load
  cases load with
  | missing missing =>
    rw [reads_of_none missing, Bool.or_false]
    exact remembers
  | @kept file present same =>
    cases read with
    | true => exact remembers
    | false =>
      -- the stamp of a cache that has read nothing is zero, so this file is no file that counts
      have zero : (file.stamp == 0) = true := by rwa [remembers.unread rfl] at same
      rw [reads_of_some present, zero]
      exact remembers
  | refused present _ parsed =>
    rw [reads_of_some present, parsed, Except.isOk, Except.toBool, Bool.and_false, Bool.or_false]
    exact remembers
  | @taken file _ present other parsed =>
    have counts : (read || c.reads parse .load) = true := by
      cases read with
      | true => rfl
      | false =>
        have zero : (file.stamp == 0) = false := by rwa [remembers.unread rfl] at other
        rw [reads_of_some present, zero, parsed]
        rfl
    rw [counts]
    exact remembers.take present parsed

theorem Remembers.act (remembers : c.Remembers parse absent files read) {action : FileAction}
    (written : ∀ file, action = .write file → file ∈ files) :
    (c.act parse absent action).Remembers parse absent files (read || c.reads parse action) := by
  cases action with
  | write file =>
    rw [reads, Bool.or_false]
    exact remembers.replace fun f found => Option.some.inj found ▸ written file rfl
  | delete =>
    rw [reads, Bool.or_false]
    exact remembers.replace fun f found => nomatch found
  | load => exact remembers.load

theorem Remembers.after (remembers : c.Remembers parse absent files read)
    {history : List FileAction} (written : ∀ file, .write file ∈ history → file ∈ files) :
    (c.after parse absent history).Remembers parse absent files
      (read || c.hasRead parse absent history) := by
  induction history generalizing c read with
  | nil =>
    rw [hasRead, Bool.or_false]
    exact remembers
  | cons action rest ih =>
    rw [hasRead, ← Bool.or_assoc]
    exact ih (remembers.act fun file same => written file (same ▸ List.mem_cons_self))
      fun file member => written file (List.mem_cons_of_mem action member)

/-- A cache answers what the file holds, unless it has read nothing and the file has the stamp
zero. -/
theorem Remembers.answer_eq (remembers : c.Remembers parse absent files read)
    (unambiguous : Unambiguous files)
    (seen : read = true ∨ ∀ file, c.file = some file → (file.stamp == 0) = false) :
    c.answer parse absent = c.fresh parse absent := by
  have load := loads parse absent c
  generalize c.act parse absent .load = next at load
  generalize c.answer parse absent = answer at load ⊢
  cases load with
  | missing missing => rw [fresh_of_none missing]
  | refused present _ parsed => rw [fresh_of_some present, parsed]
  | taken present _ parsed => rw [fresh_of_some present, parsed]
  | @kept file present same =>
    cases read with
    | true =>
      obtain ⟨other, written, stamp, parsed⟩ := remembers.content rfl
      rw [stamp] at same
      have bytes := unambiguous file (remembers.current file present) other written same
      rw [fresh_of_some present, bytes, parsed]
    | false =>
      rcases seen with read | other
      · contradiction
      · have zero : (file.stamp == 0) = true := by rwa [remembers.unread rfl] at same
        rw [other file present] at zero
        contradiction

/-- A cache that has read nothing takes a file with the stamp zero for no file. -/
theorem answer_of_zero (unread : c.cache = .initial absent) {file : StampedFile}
    (present : c.file = some file) (zero : (file.stamp == 0) = true) :
    c.answer parse absent = .ok absent := by
  rw [answer, present, unread]
  exact congrArg Prod.snd (if_pos zero)

theorem mem_written {file : StampedFile} {history : List FileAction}
    (member : .write file ∈ history) : file ∈ FileAction.written history :=
  List.mem_filterMap.mpr ⟨.write file, member, rfl⟩

/-- After every history in which different contents never carry the same stamp, a load answers what
reading the file without a cache answers, but for one kind of file: one with the stamp zero, while
no load has yet taken in a file with another stamp. The answer is then what stands for a missing
file, so it is right only where the file holds just this. A load that finds no file, or that fails,
changes nothing for the loads after it. -/
theorem answer_eq_fresh_iff (parse : List UInt8 → Except ε α) (absent : α)
    (history : List FileAction) (unambiguous : Unambiguous (FileAction.written history)) :
    let now := (start absent).after parse absent history
    let unread := (start absent).hasRead parse absent history = false ∧
      ∃ file, now.file = some file ∧ (file.stamp == 0) = true
    (now.answer parse absent = now.fresh parse absent ↔
      (unread → now.fresh parse absent = .ok absent)) ∧
    (unread → now.answer parse absent = .ok absent) ∧
    (now.file = none ∨ (∃ fault, now.answer parse absent = .error fault) → ∀ later,
      (start absent).after parse absent (history ++ .load :: later) =
        (start absent).after parse absent (history ++ later)) := by
  intro now unread
  have remembers : now.Remembers parse absent (FileAction.written history)
      ((start absent).hasRead parse absent history) := by
    have started : (start absent).Remembers parse absent (FileAction.written history) false :=
      remembers_start
    have reached := started.after fun file member => mem_written member
    rwa [Bool.false_or] at reached
  have atZero : unread → now.answer parse absent = .ok absent := by
    rintro ⟨nothing, file, present, zero⟩
    exact answer_of_zero (remembers.unread nothing) present zero
  refine ⟨⟨fun right missed => right ▸ atZero missed, fun right => ?_⟩, atZero,
    fun failed later => ?_⟩
  · by_cases missed : unread
    · rw [atZero missed, right missed]
    · refine remembers.answer_eq unambiguous ?_
      cases nothing : (start absent).hasRead parse absent history with
      | true => exact .inl rfl
      | false =>
        refine .inr fun file present => ?_
        rw [← Bool.not_eq_true]
        exact fun zero => missed ⟨nothing, file, present, zero⟩
  · have same : now.act parse absent .load = now := act_load_of_failed failed
    rw [after_append, after_append]
    show (now.act parse absent .load).after parse absent later = _
    rw [same]

/-- A file goes and comes back, with an older stamp and in between with bytes that are no text. -/
def returning : List FileAction :=
  [.load, .write ⟨2, [91, 118, 109, 93]⟩, .load, .write ⟨1, [255]⟩, .load, .delete, .load,
    .write ⟨0, [91, 97, 93, 10, 91, 98, 93]⟩]

theorem answer_eq_fresh_iff_returning :
    Unambiguous (FileAction.written returning) ∧
    (start []).hasRead StampedFile.parse [] returning = true ∧
    ((start []).after StampedFile.parse [] returning).answer StampedFile.parse [] =
      StampedFile.parse [91, 97, 93, 10, 91, 98, 93] := by
  have unambiguous : Unambiguous (FileAction.written returning) := by decide
  have read : (start []).hasRead StampedFile.parse [] returning = true := by decide
  refine ⟨unambiguous, read,
    (answer_eq_fresh_iff StampedFile.parse [] returning unambiguous).1.mpr fun unread => ?_⟩
  rw [read] at unread
  exact nomatch unread.1

/-- A file with one table and the stamp zero: the cache answers the empty table. -/
theorem answer_unread_zero :
    let history : List FileAction := [.write ⟨0, [91, 118, 109, 93]⟩]
    let now := (start []).after StampedFile.parse [] history
    Unambiguous (FileAction.written history) ∧
    (now.answer StampedFile.parse []).toOption.map List.length = some 0 ∧
    (now.fresh StampedFile.parse []).toOption.map List.length = some 1 ∧
    now.answer StampedFile.parse [] ≠ now.fresh StampedFile.parse [] := by
  intro history now
  have answered : (now.answer StampedFile.parse []).toOption.map List.length = some 0 := by decide
  have held : (now.fresh StampedFile.parse []).toOption.map List.length = some 1 := by decide
  refine ⟨by decide, answered, held, fun same => ?_⟩
  rw [same, held] at answered
  contradiction

end CachedFile

end TapeSwarm
