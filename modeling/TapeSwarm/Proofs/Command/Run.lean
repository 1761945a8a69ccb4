import TapeSwarm.Command.Run
import TapeSwarm.Proofs.Machine.Budget
import TapeSwarm.Proofs.Tape.Writing
import TapeSwarm.Proofs.Text.Lines

/-!
# How the run of one program ends

The command that runs one program has up to three things to read: a program file, the input, and the
program text. It reads them in this order and prints nothing before all of them were read, so that
it either tells the first defect in one line, or shows in four what a clean run has left. What would
be a defect further on does not matter then, and a run has none of its own: whatever the program and
the budget, it comes to an end that can be shown.

* The defect of a text is its first run of characters that no byte is equal to, and `Tells` spells
  the words for it. Only texts with such a run are refused (`exists_read_text`, `exists_defect`).
* What is printed as a line is one line (`Unbroken`). Paths may hold line breaks, but are quoted.

Result: `run_tells_first_defect`.
-/

namespace TapeSwarm

/-! ## The defect of a text -/

namespace Source

/-- The first characters of a text that are wider than a byte, and those before them. -/
structure FirstWide (text front run : List Char) : Prop where
  parts : ∃ back, text = front ++ (run ++ back) ∧ ∀ c ∈ back.head?, c.toNat ≤ 0xff
  before : ∀ c ∈ front, c.toNat ≤ 0xff
  wide : ∀ c ∈ run, 0xff < c.toNat
  some : run ≠ []

/-- The words for the first wide characters of a text. One is given by its number, in four
hexadecimal digits or, if these are too few, in eight; of several in a row the places are given. -/
inductive Tells (text : List Char) : String → Prop
  | short {front : List Char} {c : Char} (first : FirstWide text front [c])
      (few : c.toNat < 0x10000) :
      Tells text ("character '\\u" ++ String.ofList ((Nat.toDigits 16 c.toNat).leftpad 4 '0')
        ++ "' in position " ++ toString front.length)
  | long {front : List Char} {c : Char} (first : FirstWide text front [c])
      (many : 0x10000 ≤ c.toNat) :
      Tells text ("character '\\U" ++ String.ofList ((Nat.toDigits 16 c.toNat).leftpad 8 '0')
        ++ "' in position " ++ toString front.length)
  | several {front run : List Char} (first : FirstWide text front run) (several : 1 < run.length) :
      Tells text ("characters in position " ++ toString front.length ++ "-"
        ++ toString (front.length + run.length - 1))

/-- A fault whose message is about the first wide characters of a text. -/
def DefectOf (text : List Char) (fault : TapeFault) : Prop :=
  ∃ words, Tells text words ∧
    fault.message =
      "program characters must be in range 0-255: 'latin-1' codec can't encode " ++ words
        ++ ": ordinal not in range(256)"

theorem isNarrow_iff {c : Char} : isNarrow c = true ↔ c.toNat ≤ 0xff := by
  rw [isNarrow, decide_eq_true_iff, Nat.lt_succ_iff]

theorem not_isNarrow_iff {c : Char} : isNarrow c = false ↔ 0xff < c.toNat := by
  rw [← Bool.not_eq_true, isNarrow_iff, Nat.not_le]

theorem FirstWide.not_narrow {text front run : List Char} (first : FirstWide text front run) :
    ¬ ∀ c ∈ text, c.toNat ≤ 0xff := by
  obtain ⟨⟨back, rfl, -⟩, -, wide, some⟩ := first
  obtain ⟨c, member⟩ := List.exists_mem_of_ne_nil run some
  intro narrow
  exact Nat.not_le_of_lt (wide c member) (narrow c (by simp [member]))

theorem DefectOf.not_narrow {text : List Char} {fault : TapeFault} (defect : DefectOf text fault) :
    ¬ ∀ c ∈ text, c.toNat ≤ 0xff := by
  obtain ⟨words, tells, -⟩ := defect
  cases tells with
  | short first _ => exact first.not_narrow
  | long first _ => exact first.not_narrow
  | several first _ => exact first.not_narrow

theorem FirstWide.defectOf {text front run : List Char} {c : Char}
    (first : FirstWide text front (c :: run)) :
    DefectOf text (.wideCharacters c front.length (front.length + run.length)) := by
  unfold DefectOf TapeFault.message TapeFault.escaped
  cases run with
  | nil =>
    by_cases few : c.toNat < 0x10000
    · exact ⟨_, .short first few, by simp [few, Text.hexadecimal, ← String.append_assoc]⟩
    · exact ⟨_, .long first (Nat.not_lt.mp few),
        by simp [few, Text.hexadecimal, ← String.append_assoc]⟩
  | cons next more =>
    exact ⟨_, .several first (by simp), by simp [← String.append_assoc]⟩

/-- A text of narrow characters is read as the bytes that they are. -/
theorem exists_read_text {text : List Char} (narrow : ∀ c ∈ text, c.toNat ≤ 0xff) :
    ∃ tape : Tape, tape.values = text.map (fun c => (c.toNat : ℤ)) ∧
      (Source.text text).read = .ok tape := by
  have fits : ∀ n ∈ text.map (fun c => (c.toNat : ℤ)), 0 ≤ n ∧ n ≤ 255 := by
    intro n member
    obtain ⟨c, carried, rfl⟩ := List.mem_map.mp member
    exact ⟨Int.natCast_nonneg _, Int.ofNat_le.mpr (narrow c carried)⟩
  obtain ⟨tape, read, same⟩ := (Writes.text rfl).read_of_fits fits
  exact ⟨tape, same, read⟩

/-- A text with a wide character is refused for this defect. -/
theorem exists_defect {text : List Char} (wide : ¬ ∀ c ∈ text, c.toNat ≤ 0xff) :
    ∃ fault, DefectOf text fault ∧ (Source.text text).read = .error fault := by
  have parts := List.takeWhile_append_dropWhile (p := isNarrow) (l := text)
  have stops := List.head?_dropWhile_not isNarrow text
  cases found : text.dropWhile isNarrow with
  | nil =>
    have narrow := List.dropWhile_eq_nil_iff.mp found
    exact absurd (fun c carried => isNarrow_iff.mp (narrow c carried)) wide
  | cons c rest =>
    have behind := List.head?_dropWhile_not (fun d => !isNarrow d) rest
    rw [found] at parts stops
    have first : FirstWide text (text.takeWhile isNarrow)
        (c :: rest.takeWhile fun d => !isNarrow d) := by
      refine ⟨⟨rest.dropWhile fun d => !isNarrow d, ?parts, ?behind⟩, ?before, ?wide,
        List.cons_ne_nil _ _⟩
      case parts => rw [List.cons_append, List.takeWhile_append_dropWhile, parts]
      case behind =>
        intro d last
        rw [last] at behind
        exact isNarrow_iff.mp (by simpa using behind)
      case before =>
        intro d member
        exact isNarrow_iff.mp (List.mem_takeWhile_imp member)
      case wide =>
        refine List.forall_mem_cons.mpr ⟨not_isNarrow_iff.mp stops, fun d member => ?_⟩
        exact not_isNarrow_iff.mp (by simpa using List.mem_takeWhile_imp member)
    refine ⟨_, first.defectOf, ?_⟩
    show readText text = _
    unfold readText
    rw [found]

end Source

/-! ## Lines -/

theorem unbroken_of_defect {text : List Char} {fault : TapeFault}
    (defect : Source.DefectOf text fault) : Unbroken fault.message := by
  obtain ⟨words, tells, same⟩ := defect
  rw [same]
  cases tells with
  | @short _ c _ _ => simpa +decide [Text.hexadecimal] using unbroken_hexadecimal 4 c.toNat
  | @long _ c _ _ => simpa +decide [Text.hexadecimal] using unbroken_hexadecimal 8 c.toNat
  | several _ _ => simp +decide

/-- A system's own words are taken as they are; all other faults of files are told in one line. -/
theorem unbroken_message {fault : Storage.ReadFault} (path : Storage.Path)
    (own : ∀ words, fault = .other words → Unbroken words) : Unbroken (fault.message path) := by
  cases fault with
  | other words => exact own words rfl
  | missing | denied | notDirectory | isDirectory | nameTooLong =>
    simp +decide [Storage.ReadFault.message, Storage.ReadFault.named]

namespace Command

@[simp] theorem unbroken_listed (values : List ℤ) : Unbroken (listed values) := by
  have inside : Unbroken (", ".intercalate (values.map toString)) := by
    refine unbroken_intercalate (by decide) fun part member => ?_
    obtain ⟨n, -, rfl⟩ := List.mem_map.mp member
    simp
  simp +decide [listed, inside]

theorem exists_failure_eq {text : List Char} {fault : TapeFault}
    (defect : Source.DefectOf text fault) :
    ∃ words, Source.Tells text words ∧
      Outcome.failure fault.message = ⟨some 1,
        ["ERROR: program characters must be in range 0-255: 'latin-1' codec can't encode "
          ++ words ++ ": ordinal not in range(256)"]⟩ := by
  obtain ⟨words, tells, same⟩ := defect
  refine ⟨words, tells, ?_⟩
  simp only [same, Outcome.failure, ← String.append_assoc, String.reduceAppend]

theorem unbroken_failure {message : String} (unbroken : Unbroken message) :
    ∀ line ∈ (Outcome.failure message).lines, Unbroken line := by
  simp +decide [Outcome.failure, unbroken]

theorem unbroken_snapshotLines (s : Snapshot) : ∀ line ∈ snapshotLines s, Unbroken line := by
  simp +decide [snapshotLines]

/-! ## The command -/

/-- The program that a request offers: a text itself, or the bytes of a file that can be read. -/
inductive ProgramText.Offers (reading : Storage.Reading) : ProgramText → Source → Prop
  | inline (text : List Char) : Offers reading (.inline text) (.text text)
  | file {text : List Char} {bytes : List UInt8} (path : '\x00' ∉ text)
      (content : reading (.ofText text) = .ok bytes) : Offers reading (.file text) (.bytes bytes)

/-- What is offered is a tape, byte for byte, unless it is a text with a wide character. -/
theorem ProgramText.Offers.read_cases {program : ProgramText} {reading : Storage.Reading}
    {source : Source} (offers : program.Offers reading source) :
    (∀ text, program = .inline text → ∀ c ∈ text, c.toNat ≤ 0xff) ∧
        (∃ tape : Tape, source.read = .ok tape ∧
          (∀ text, program = .inline text → tape.values = text.map fun c => (c.toNat : ℤ)) ∧
          ∀ bytes, source = .bytes bytes → tape = bytes) ∨
      ∃ text fault, program = .inline text ∧ Source.DefectOf text fault ∧
        source.read = .error fault := by
  cases offers with
  | @file text bytes path content =>
    refine .inl ⟨nofun, bytes, rfl, nofun, ?_⟩
    rintro _ ⟨⟩
    rfl
  | inline text =>
    by_cases narrow : ∀ c ∈ text, c.toNat ≤ 0xff
    · obtain ⟨tape, values, read⟩ := Source.exists_read_text narrow
      refine .inl ⟨?_, tape, read, ?_, nofun⟩
      · rintro _ ⟨⟩
        exact narrow
      · rintro _ ⟨⟩
        exact values
    · obtain ⟨fault, defect, read⟩ := Source.exists_defect narrow
      exact .inr ⟨text, fault, rfl, defect, read⟩

namespace RunRequest

variable {request : RunRequest} {reading : Storage.Reading} {source : Source}

theorem run_of_offers (offers : request.program.Offers reading source) :
    request.run reading = request.runSource source := by
  unfold run
  cases asked : request.program with
  | inline text =>
    rw [asked] at offers
    cases offers
    rfl
  | file text =>
    rw [asked] at offers
    cases offers with
    | file path content => simp [path, content]

theorem run_of_unreadable {text : List Char} {fault : Storage.ReadFault}
    (asked : request.program = .file text) (path : '\x00' ∉ text)
    (unreadable : reading (.ofText text) = .error fault) :
    request.run reading =
      .ok (.failure ("cannot read program file: " ++ fault.message (.ofText text))) := by
  simp [run, asked, path, unreadable]

/-- The input is read first: its fault is told whatever the program is. -/
theorem runSource_of_bad_input {fault : TapeFault}
    (refused : (Source.text request.input).read = .error fault) (source : Source) :
    request.runSource source = .ok (.failure fault.message) := by
  rw [runSource, refused]

theorem runSource_of_bad_program {queue : Tape} {fault : TapeFault}
    (fed : (Source.text request.input).read = .ok queue) (refused : source.read = .error fault) :
    request.runSource source = .ok (.failure fault.message) := by
  simp only [runSource, fed, refused]

/-- Where both can be read, a clean run on a new machine is shown. -/
theorem runSource_of_read {queue tape : Tape} {steps patternSize : ℤ}
    (fed : (Source.text request.input).read = .ok queue) (read : source.read = .ok tape)
    (allowed : request.steps = .number steps) (wanted : request.patternSize = .number patternSize) :
    request.runSource source =
      .ok (.success (snapshotLines
        ((((Machine.blank Machine.defaultSize Machine.defaultSize_pos).feed queue).runClean tape
          (.ofInt steps)).snapshot patternSize))) := by
  simp only [runSource, fed, read, runTape, budget, allowed, wanted]
  rfl

end RunRequest

/-- A program text or a file that can be read, on any input, with any numbers of steps and cells: a
run always comes to an outcome. Its status is zero exactly if the input, and the program if it is a
text, are of narrow characters; then four lines show the snapshot of a clean run on a new machine
that was fed the bytes of the input, and the program is byte for byte what was given. Otherwise the status is one, and one line tells the defect of
the input, or that of the program where the input has none. A file that cannot be read is told of in
one line on any input. -/
theorem run_tells_first_defect (program : ProgramText) (input : List Char)
    (steps patternSize : ℤ) (reading : Storage.Reading) :
    let request : RunRequest :=
      { program, steps := .number steps, input, patternSize := .number patternSize }
    (∀ source, program.Offers reading source →
      ∃ outcome, request.run reading = .ok outcome ∧
        (outcome.status = some 0 ↔ (∀ c ∈ input, c.toNat ≤ 0xff) ∧
            ∀ text, program = .inline text → ∀ c ∈ text, c.toNat ≤ 0xff) ∧
        (outcome.status = some 0 →
          ∃ (queue tape : Tape) (snapshot : Snapshot),
            queue.values = input.map (fun c => (c.toNat : ℤ)) ∧
            (∀ text, program = .inline text → tape.values = text.map fun c => (c.toNat : ℤ)) ∧
            (∀ bytes, source = .bytes bytes → tape = bytes) ∧
            snapshot = (((Machine.blank Machine.defaultSize Machine.defaultSize_pos).feed
              queue).runClean tape (.ofInt steps)).snapshot patternSize ∧
            (((Machine.blank Machine.defaultSize Machine.defaultSize_pos).feed queue).execute
              source (.ofInt steps) patternSize).2 = .ok snapshot ∧
            outcome.lines =
              [ "operations=" ++ toString snapshot.operations,
                "memory_sum=" ++ toString snapshot.memorySum,
                "memory_pattern=[" ++ ", ".intercalate (snapshot.pattern.map toString) ++ "]",
                "output=[" ++ ", ".intercalate (snapshot.output.map toString) ++ "]" ]) ∧
        (outcome.status ≠ some 0 →
          ∃ words,
            outcome = ⟨some 1,
              ["ERROR: program characters must be in range 0-255: 'latin-1' codec can't encode "
                ++ words ++ ": ordinal not in range(256)"]⟩ ∧
            (Source.Tells input words ∨
              (∀ c ∈ input, c.toNat ≤ 0xff) ∧
                ∃ text, program = .inline text ∧ Source.Tells text words)) ∧
        outcome.stdout = String.join (outcome.lines.map (· ++ "\n")) ∧
        ∀ line ∈ outcome.lines, Unbroken line) ∧
    ∀ text fault, program = .file text → '\x00' ∉ text → reading (.ofText text) = .error fault →
      ∃ line, request.run reading = .ok ⟨some 1, [line]⟩ ∧
        line = "ERROR: cannot read program file: " ++ fault.message (.ofText text) ∧
        ((∀ words, fault = .other words → Unbroken words) → Unbroken line) := by
  intro request
  refine ⟨fun source offers => ?readable, fun text fault asked path unreadable => ?unreadable⟩
  case unreadable =>
    refine ⟨_, RunRequest.run_of_unreadable asked path unreadable, rfl, fun own => ?_⟩
    have words := unbroken_message (.ofText text) own
    simp +decide [words]
  case readable =>
    rw [RunRequest.run_of_offers offers]
    by_cases narrow : ∀ c ∈ input, c.toNat ≤ 0xff
    · obtain ⟨queue, values, fed⟩ := Source.exists_read_text narrow
      rcases offers.read_cases with
        ⟨narrowToo, tape, read, text, bytes⟩ | ⟨text, fault, asked, defect, read⟩
      · refine ⟨_, RunRequest.runSource_of_read fed read rfl rfl,
          ⟨fun _ => ⟨narrow, narrowToo⟩, fun _ => rfl⟩,
          fun _ => ⟨queue, tape, _, values, text, bytes, rfl, ?_, snapshotLines_eq _⟩,
          fun failed => absurd rfl failed, rfl, unbroken_snapshotLines _⟩
        rw [Machine.execute_of_read read]
      · obtain ⟨words, tells, failed⟩ := exists_failure_eq defect
        refine ⟨_, RunRequest.runSource_of_bad_program fed read, ⟨nofun, ?_⟩, nofun,
          fun _ => ⟨words, failed, .inr ⟨narrow, text, asked, tells⟩⟩, rfl,
          unbroken_failure (unbroken_of_defect defect)⟩
        exact fun ⟨_, narrowToo⟩ => absurd (narrowToo text asked) defect.not_narrow
    · obtain ⟨fault, defect, read⟩ := Source.exists_defect narrow
      obtain ⟨words, tells, failed⟩ := exists_failure_eq defect
      refine ⟨_, RunRequest.runSource_of_bad_input read source, ⟨nofun, ?_⟩, nofun,
        fun _ => ⟨words, failed, .inl tells⟩, rfl, unbroken_failure (unbroken_of_defect defect)⟩
      exact fun ⟨narrow, _⟩ => absurd narrow defect.not_narrow

/-- One file `e`, which holds `,.`. -/
def oneFile : Storage.Reading :=
  fun path => if path = .ofText ['e'] then .ok [44, 46] else .error .missing

/-- The text `→→!`. -/
def arrows : List Char := ['\u2192', '\u2192', '!']

/-- The file is run on an input that fits; of an input and a program that do not fit the input is
told; of a file that is missing that. -/
theorem run_tells_first_defect_oneFile :
    let readable : RunRequest := ⟨.file ['e'], .number 5, ['\u00ff'], .number 1⟩
    let unfit : RunRequest := ⟨.inline arrows, .number 5, arrows, .number 1⟩
    let missing : RunRequest := ⟨.file ['n'], .number 5, arrows, .number 1⟩
    (ProgramText.file ['e']).Offers oneFile (.bytes [44, 46]) ∧
    (ProgramText.inline arrows).Offers oneFile (.text arrows) ∧
    ProgramText.file ['n'] = .file ['n'] ∧ '\x00' ∉ ['n'] ∧
    oneFile (.ofText ['n']) = .error .missing ∧
    (∃ outcome, readable.run oneFile = .ok outcome ∧ outcome.status = some 0) ∧
    (∃ words, Source.Tells arrows words ∧
      unfit.run oneFile = .ok ⟨some 1,
        ["ERROR: program characters must be in range 0-255: 'latin-1' codec can't encode "
          ++ words ++ ": ordinal not in range(256)"]⟩) ∧
    ∃ line, missing.run oneFile = .ok ⟨some 1, [line]⟩ ∧ Unbroken line := by
  intro readable unfit missing
  have content : (ProgramText.file ['e']).Offers oneFile (.bytes [44, 46]) :=
    .file (by decide) rfl
  have text : (ProgramText.inline arrows).Offers oneFile (.text arrows) := .inline arrows
  refine ⟨content, text, rfl, by decide, rfl, ?_, ?_, ?_⟩
  · obtain ⟨outcome, ran, ends, -⟩ :=
      (run_tells_first_defect (.file ['e']) ['\u00ff'] 5 1 oneFile).1 _ content
    exact ⟨outcome, ran, ends.mpr ⟨by simp, nofun⟩⟩
  · obtain ⟨outcome, ran, ends, -, told, -⟩ :=
      (run_tells_first_defect (.inline arrows) arrows 5 1 oneFile).1 _ text
    have wide : ¬ ∀ c ∈ arrows, c.toNat ≤ 0xff := by simp [arrows]
    obtain ⟨words, rfl, tells | ⟨narrow, -⟩⟩ := told fun zero => wide (ends.mp zero).1
    · exact ⟨words, tells, ran⟩
    · exact absurd narrow wide
  · obtain ⟨line, ran, -, unbroken⟩ :=
      (run_tells_first_defect (.file ['n']) arrows 5 1 oneFile).2 _ .missing rfl (by decide) rfl
    exact ⟨line, ran, unbroken nofun⟩

example :
    RunRequest.run ⟨.inline ['\u2192', '!'], .number 5, ['\u2192', '\u2192'], .number 1⟩
        (fun _ => .error .missing) =
      .ok ⟨some 1, ["ERROR: program characters must be in range 0-255: 'latin-1' codec can't "
        ++ "encode characters in position 0-1: ordinal not in range(256)"]⟩ := by
  rfl

end Command

end TapeSwarm
