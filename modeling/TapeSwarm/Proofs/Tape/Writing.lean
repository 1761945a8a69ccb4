import Mathlib.Data.BitVec
import Mathlib.Data.List.OfFn
import Mathlib.Data.List.TakeWhile
import TapeSwarm.Tape.Source

/-!
# All ways to write a tape

A sequence of integers can be offered as a tape in several ways: as bytes, as the items of a
collection, as a grid of words of some type and shape, or as text with these code points. Each way
is read by a rule of its own. Text is searched for wide characters, items are taken one by one, and
a grid is accepted or refused as a whole. All of them come to the same (`representations_agree`): if
every integer fits a byte, the tape that consists of them, and otherwise a bad value, never a bad
type.

A collection may hold other things than integers too. The first element that is no byte decides, and
what is behind it does not matter (`readItems_of_find?`).
-/

namespace TapeSwarm

/-- The numbers on a tape. -/
def Tape.values (tape : Tape) : List ℤ :=
  tape.map fun b => (b.toNat : ℤ)

/-- The text of which each character has a byte of the tape as its code point. -/
def Tape.characters (tape : Tape) : List Char :=
  tape.map fun b => Char.ofNat b.toNat

/-! ## Grids -/

/-- A grid of a shape: along its first axis there are grids of the remaining shape. -/
inductive Grid (α : Type) : List ℕ → Type
  | member (a : α) : Grid α []
  | axis {n : ℕ} {shape : List ℕ} (parts : Fin n → Grid α shape) : Grid α (n :: shape)

namespace Grid

variable {α : Type}

/-- The members of a grid in the order of their indices, of which the last one runs fastest. -/
def rowMajor {shape : List ℕ} : Grid α shape → List α
  | member a => [a]
  | axis parts => (List.ofFn fun i => (parts i).rowMajor).flatten

/-- The rows of a grid: what lies along its last axis. -/
def rows : {shape : List ℕ} → Grid α shape → List (List α)
  | [], grid => [grid.rowMajor]
  | [_], row => [row.rowMajor]
  | _ :: _ :: _, axis parts => (List.ofFn fun i => (parts i).rows).flatten

theorem flatten_rows {shape : List ℕ} (grid : Grid α shape) :
    grid.rows.flatten = grid.rowMajor := by
  fun_induction rows grid with
  | case1 grid => exact List.append_nil _
  | case2 n row => exact List.append_nil _
  | case3 n m shape parts ih =>
    rw [rowMajor, List.flatten_flatten, List.map_ofFn]
    exact congrArg (fun each => (List.ofFn each).flatten) (funext ih)

end Grid

/-- How the words in a grid are read: how many bits they have, and whether one of them is a sign. -/
structure WordType where
  bits : ℕ
  signed : Bool

/-- The integer that a word stands for. -/
def WordType.value (type : WordType) (word : BitVec type.bits) : ℤ :=
  if type.signed then word.toInt else word.toNat

namespace Source

/-- The ways to write a sequence of integers. -/
inductive Writes (values : List ℤ) : Source → Prop
  | bytes {tape : Tape} : tape.values = values → Writes values (.bytes tape)
  | items (collection : Collection) :
      Writes values (.items collection (values.map Item.integer))
  | grid (type : WordType) {shape : List ℕ} (words : Grid (BitVec type.bits) shape) :
      words.rowMajor.map type.value = values →
        Writes values (.grid (words.rows.map fun row => row.map type.value))
  | text {characters : List Char} :
      (characters.map fun c => (c.toNat : ℤ)) = values → Writes values (.text characters)

/-! ## Text -/

theorem readText_of_narrow {characters : List Char} (narrow : ∀ c ∈ characters, c.toNat ≤ 0xff) :
    readText characters = .ok (characters.map fun c => UInt8.ofNat c.toNat) := by
  have fits : ∀ c ∈ characters, isNarrow c = true := fun c carried =>
    decide_eq_true (Nat.lt_succ_of_le (narrow c carried))
  unfold readText
  rw [List.dropWhile_eq_nil_iff.mpr fits]

theorem readText_of_wide {characters : List Char} {c : Char} (carried : c ∈ characters)
    (wide : 0xff < c.toNat) :
    ∃ fault, readText characters = .error fault ∧ fault.kind = .badValue := by
  unfold readText
  split
  · next all =>
    have narrow : c.toNat < 256 := of_decide_eq_true (List.dropWhile_eq_nil_iff.mp all c carried)
    omega
  · exact ⟨_, rfl, rfl⟩

/-! ## Items -/

/-- What a collection may hold. -/
inductive Element where
  | number (n : ℤ)
  | truth (b : Bool)
  | other

namespace Element

/-- The integer that an element counts as. -/
def value? : Element → Option ℤ
  | number n => some n
  | truth b => some (if b then 1 else 0)
  | other => none

/-- The item that an element is. -/
def item (e : Element) : Item :=
  match e.value? with
  | some n => .integer n
  | none => .other

/-- Whether an element counts as an integer from 0 to 255. -/
def isByte (e : Element) : Bool :=
  e.value?.any fun n => 0 ≤ n ∧ n ≤ 255

end Element

theorem byteOfInt?_toNat (b : UInt8) : byteOfInt? b.toNat = some b := by
  have few : b.toNat < 256 := b.toNat_lt
  have fits : 0 ≤ (b.toNat : ℤ) ∧ (b.toNat : ℤ) < 256 := by omega
  rw [byteOfInt?, if_pos fits, Int.toNat_natCast, UInt8.ofNat_toNat]

theorem byteOfInt?_eq_none {n : ℤ} (beyond : ¬ (0 ≤ n ∧ n ≤ 255)) : byteOfInt? n = none :=
  if_neg (by omega)

theorem exists_byte {n : ℤ} (fits : 0 ≤ n ∧ n ≤ 255) : ∃ b : UInt8, (b.toNat : ℤ) = n := by
  refine ⟨UInt8.ofNat n.toNat, ?_⟩
  rw [UInt8.toNat_ofNat']
  omega

namespace Element

variable {e : Element}

theorem isByte_iff : e.isByte = true ↔ ∃ b : UInt8, e.value? = some (b.toNat : ℤ) := by
  rw [isByte, Option.any_eq_true]
  constructor
  · rintro ⟨n, counts, fits⟩
    obtain ⟨b, rfl⟩ := exists_byte (of_decide_eq_true fits)
    exact ⟨b, counts⟩
  · rintro ⟨b, counts⟩
    have few : b.toNat < 256 := b.toNat_lt
    exact ⟨b.toNat, counts, decide_eq_true (by omega)⟩

end Element

/-- An element that counts as a byte is read as that, and the others follow. -/
theorem readItems_cons_of_byte (collection : Collection) {e : Element} {b : UInt8}
    (counts : e.value? = some (b.toNat : ℤ)) (items : List Item) :
    readItems collection (e.item :: items) = (readItems collection items).map (b :: ·) := by
  rw [Element.item, counts, readItems, byteOfInt?_toNat]

/-- An element that is no byte ends the reading. -/
theorem readItems_cons_of_not_byte (collection : Collection) {e : Element}
    (noByte : e.isByte = false) (items : List Item) :
    ∃ fault, readItems collection (e.item :: items) = .error fault ∧
      fault.kind = if e.value?.isSome then .badValue else .badType := by
  cases counts : e.value? with
  | none =>
    refine ⟨.unsupported collection.name, ?_, rfl⟩
    rw [Element.item, counts, readItems]
  | some n =>
    have beyond : ¬ (0 ≤ n ∧ n ≤ 255) := by
      rw [Element.isByte, counts] at noByte
      exact of_decide_eq_false noByte
    refine ⟨.itemOutOfRange, ?_, rfl⟩
    rw [Element.item, counts, readItems, byteOfInt?_eq_none beyond]

theorem readItems_of_all (collection : Collection) {elements : List Element}
    (all : ∀ e ∈ elements, e.isByte = true) :
    ∃ tape, readItems collection (elements.map Element.item) = .ok tape ∧
      elements.map Element.value? = tape.values.map some := by
  induction elements with
  | nil => exact ⟨[], rfl, rfl⟩
  | cons e rest ih =>
    obtain ⟨b, counts⟩ := Element.isByte_iff.mp (all e List.mem_cons_self)
    obtain ⟨tape, read, values⟩ := ih fun later member => all later (List.mem_cons_of_mem e member)
    refine ⟨b :: tape, ?_, ?_⟩
    · rw [List.map_cons, readItems_cons_of_byte collection counts, read]
      rfl
    · rw [List.map_cons, counts, values]
      rfl

/-- The first element that is no byte decides. -/
theorem readItems_of_find? (collection : Collection) {elements : List Element} {e : Element}
    (found : elements.find? (fun e => !e.isByte) = some e) :
    ∃ fault, readItems collection (elements.map Element.item) = .error fault ∧
      fault.kind = if e.value?.isSome then .badValue else .badType := by
  induction elements with
  | nil => contradiction
  | cons first rest ih =>
    rw [List.find?_cons] at found
    cases fits : first.isByte with
    | true =>
      rw [fits] at found
      obtain ⟨b, counts⟩ := Element.isByte_iff.mp fits
      obtain ⟨fault, read, kind⟩ := ih found
      refine ⟨fault, ?_, kind⟩
      rw [List.map_cons, readItems_cons_of_byte collection counts, read]
      rfl
    | false =>
      rw [fits] at found
      obtain rfl := Option.some.inj found
      exact readItems_cons_of_not_byte collection fits _

/-! ## Grids of words -/

theorem mapM_of_fits {values : List ℤ} (fits : ∀ n ∈ values, 0 ≤ n ∧ n ≤ 255) :
    ∃ tape : Tape, values.mapM byteOfInt? = some tape ∧ tape.values = values := by
  induction values with
  | nil => exact ⟨[], rfl, rfl⟩
  | cons n rest ih =>
    obtain ⟨b, rfl⟩ := exists_byte (fits n List.mem_cons_self)
    obtain ⟨tape, read, same⟩ := ih fun later member => fits later (List.mem_cons_of_mem _ member)
    refine ⟨b :: tape, ?_, congrArg _ same⟩
    rw [List.mapM_cons, byteOfInt?_toNat, read]
    rfl

theorem mapM_of_beyond {values : List ℤ} {n : ℤ} (member : n ∈ values)
    (beyond : ¬ (0 ≤ n ∧ n ≤ 255)) : values.mapM byteOfInt? = none := by
  induction values with
  | nil => contradiction
  | cons first rest ih =>
    rw [List.mapM_cons]
    rcases List.mem_cons.mp member with rfl | later
    · rw [byteOfInt?_eq_none beyond]
      rfl
    · rw [ih later]
      cases byteOfInt? first with
      | none => rfl
      | some b => rfl

/-! ## All of them -/

theorem values_injective : Tape.values.Injective :=
  List.map_injective_iff.mpr fun _ _ same => UInt8.toNat_inj.mp (Int.ofNat_inj.mp same)

theorem bounds_of_mem_values {tape : Tape} {n : ℤ} (member : n ∈ tape.values) :
    0 ≤ n ∧ n ≤ 255 := by
  obtain ⟨b, _, rfl⟩ := List.mem_map.mp member
  have few : b.toNat < 256 := b.toNat_lt
  omega

theorem map_number (values : List ℤ) :
    (values.map Element.number).map Element.item = values.map Item.integer :=
  List.map_map

theorem flatten_grid (type : WordType) {shape : List ℕ} (words : Grid (BitVec type.bits) shape) :
    (words.rows.map fun row => row.map type.value).flatten = words.rowMajor.map type.value := by
  rw [← Grid.flatten_rows, List.map_flatten]

/-- A sequence of integers that fit a byte is read as these, in whichever way it is written. -/
theorem Writes.read_of_fits {values : List ℤ} {source : Source} (writes : Writes values source)
    (fits : ∀ n ∈ values, 0 ≤ n ∧ n ≤ 255) :
    ∃ tape, source.read = .ok tape ∧ tape.values = values := by
  cases writes with
  | @bytes tape same => exact ⟨tape, rfl, same⟩
  | items collection =>
    have all : ∀ e ∈ values.map Element.number, e.isByte = true := by
      intro e member
      obtain ⟨n, inside, rfl⟩ := List.mem_map.mp member
      exact decide_eq_true (fits n inside)
    obtain ⟨tape, read, counted⟩ := readItems_of_all collection all
    rw [map_number] at read
    have numbers : values.map some = tape.values.map some := by
      rw [← counted, List.map_map]
      rfl
    exact ⟨tape, read, (List.map_injective_iff.mpr (Option.some_injective ℤ) numbers).symm⟩
  | grid type words same =>
    obtain ⟨tape, read, numbers⟩ := mapM_of_fits fits
    refine ⟨tape, ?_, numbers⟩
    rw [Source.read, readGrid, flatten_grid, same, read]
  | @text characters same =>
    have narrow : ∀ c ∈ characters, c.toNat ≤ 0xff := by
      intro c carried
      have bounds := fits c.toNat (same ▸ List.mem_map.mpr ⟨c, carried, rfl⟩)
      omega
    refine ⟨_, readText_of_narrow narrow, ?_⟩
    rw [← same, Tape.values, List.map_map]
    refine List.map_congr_left fun c carried => ?_
    have few := narrow c carried
    rw [Function.comp_apply, UInt8.toNat_ofNat']
    omega

/-- One integer that does not fit a byte makes a bad value of it, in whichever way it is written. -/
theorem Writes.read_of_beyond {values : List ℤ} {source : Source} (writes : Writes values source)
    {n : ℤ} (member : n ∈ values) (beyond : ¬ (0 ≤ n ∧ n ≤ 255)) :
    ∃ fault, source.read = .error fault ∧ fault.kind = .badValue := by
  cases writes with
  | @bytes tape same => exact absurd (bounds_of_mem_values (same ▸ member)) beyond
  | items collection =>
    have some : ((values.map Element.number).find? fun e => !e.isByte).isSome = true := by
      refine List.find?_isSome.mpr ⟨.number n, List.mem_map.mpr ⟨n, member, rfl⟩, ?_⟩
      rw [Element.isByte]
      exact congrArg not (decide_eq_false beyond)
    obtain ⟨e, found⟩ := Option.isSome_iff_exists.mp some
    obtain ⟨fault, read, kind⟩ := readItems_of_find? collection found
    obtain ⟨m, _, rfl⟩ := List.mem_map.mp (List.mem_of_find?_eq_some found)
    rw [map_number] at read
    exact ⟨fault, read, kind⟩
  | grid type words same =>
    refine ⟨.gridOutOfRange, ?_, rfl⟩
    rw [Source.read, readGrid, flatten_grid, same, mapM_of_beyond member beyond]
  | @text characters same =>
    obtain ⟨c, carried, rfl⟩ := List.mem_map.mp (same ▸ member)
    exact readText_of_wide carried (by omega)

theorem characters_values (tape : Tape) :
    (tape.characters.map fun c => (c.toNat : ℤ)) = tape.values := by
  rw [Tape.characters, Tape.values, List.map_map]
  refine List.map_congr_left fun b _ => ?_
  have valid : b.toNat.isValidChar := .inl (by have few := b.toNat_lt; omega)
  rw [Function.comp_apply, Char.ofNat, dif_pos valid]
  rfl

/-- Sequences of any integers, and all ways to write them. Either all of the integers fit a byte,
and each way is read as the tape that consists of them, or one does not, and each way is a bad
value. Of a collection with other elements too, the first one that is no byte decides: it is a bad
value if it counts as an integer, and of a bad type if not. A tape is read as itself, also from the
text with its bytes as code points. -/
theorem representations_agree (values : List ℤ) :
    ((∀ n ∈ values, 0 ≤ n ∧ n ≤ 255) ∧
        (∃ tape : Tape, tape.values = values ∧
          ∀ source, Writes values source → source.read = .ok tape) ∨
      (∃ n ∈ values, ¬ (0 ≤ n ∧ n ≤ 255)) ∧
        ∀ source, Writes values source →
          ∃ fault, source.read = .error fault ∧ fault.kind = .badValue) ∧
    (∀ (collection : Collection) (elements : List Element),
      let source := Source.items collection (elements.map Element.item)
      match elements.find? fun e => !e.isByte with
      | none => ∃ tape : Tape, source.read = .ok tape ∧
          elements.map Element.value? = tape.values.map some
      | some e => ∃ fault, source.read = .error fault ∧
          fault.kind = if e.value?.isSome then .badValue else .badType) ∧
    ∀ tape : Tape, (Source.bytes tape).read = .ok tape ∧
      (tape.characters.map fun c => (c.toNat : ℤ)) = tape.values ∧
      (Source.text tape.characters).read = .ok tape := by
  refine ⟨?forms, ?mixed, ?again⟩
  case forms =>
    by_cases fits : ∀ n ∈ values, 0 ≤ n ∧ n ≤ 255
    · obtain ⟨tape, _, same⟩ := (Writes.items .list).read_of_fits fits
      refine .inl ⟨fits, tape, same, fun source writes => ?_⟩
      obtain ⟨also, read, alsoSame⟩ := writes.read_of_fits fits
      rw [read, values_injective (alsoSame.trans same.symm)]
    · obtain ⟨n, member, beyond⟩ := by simpa only [not_forall, exists_prop] using fits
      exact .inr ⟨⟨n, member, beyond⟩, fun source writes => writes.read_of_beyond member beyond⟩
  case mixed =>
    intro collection elements source
    split
    · next none =>
      refine readItems_of_all collection fun e member => ?_
      simpa using List.find?_eq_none.mp none e member
    · next e found => exact readItems_of_find? collection found
  case again =>
    intro tape
    have text := characters_values tape
    obtain ⟨also, read, same⟩ := (Writes.text text).read_of_fits fun n => bounds_of_mem_values
    exact ⟨rfl, text, read.trans (congrArg _ (values_injective same))⟩

end Source

end TapeSwarm
