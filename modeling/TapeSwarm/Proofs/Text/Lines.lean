import Mathlib.Data.Int.Order.Basic
import TapeSwarm.Text.Quoted

/-!
# Texts of one line

Messages are put together from fixed words, numbers and quoted texts. None of these has a line
break, whatever the number or the text is, and then what is put together from them has none either
(`Unbroken`). A decimal or hexadecimal number consists of digits; in quotes, a line break is
escaped.
-/

namespace TapeSwarm

/-- A text without line breaks: printed as a line, it is one line. -/
def Unbroken (text : String) : Prop :=
  '\n' ∉ text.toList

instance : DecidablePred Unbroken :=
  fun text => inferInstanceAs (Decidable ('\n' ∉ text.toList))

@[simp] theorem unbroken_append {first second : String} :
    Unbroken (first ++ second) ↔ Unbroken first ∧ Unbroken second := by
  simp [Unbroken]

@[simp] theorem unbroken_join {parts : List String} :
    Unbroken (String.join parts) ↔ ∀ part ∈ parts, Unbroken part := by
  simp [Unbroken]

theorem unbroken_intercalate {separator : String} (unbroken : Unbroken separator)
    {parts : List String} (all : ∀ part ∈ parts, Unbroken part) :
    Unbroken (separator.intercalate parts) := by
  induction parts with
  | nil => simp [Unbroken]
  | cons first rest ih =>
    obtain ⟨head, others⟩ := List.forall_mem_cons.mp all
    cases rest with
    | nil => simpa using head
    | cons second more =>
      have onward := ih others
      simp [head, unbroken, onward]

/-! ## Numbers -/

theorem newline_notMem_toDigits {base : ℕ} (positional : 1 < base) (n : ℕ) :
    '\n' ∉ Nat.toDigits base n := by
  induction n using Nat.strongRecOn with
  | ind n ih =>
    rw [Nat.toDigits_eq_if positional]
    split
    · simp
    · next large =>
      have shorter := ih (n / base) (Nat.div_lt_self (by omega) positional)
      simp [shorter]

@[simp] theorem unbroken_repr_nat (n : ℕ) : Unbroken n.repr := by
  simpa [Unbroken, Nat.repr_eq_ofList_toDigits] using newline_notMem_toDigits (by decide) n

@[simp] theorem unbroken_repr_int (n : ℤ) : Unbroken n.repr := by
  rw [Int.repr_eq_if]
  split
  · simp
  · simp +decide

@[simp] theorem unbroken_hexadecimal (width n : ℕ) : Unbroken (Text.hexadecimal width n) := by
  simpa [Unbroken, Text.hexadecimal] using newline_notMem_toDigits (by decide) n

/-! ## Quotes -/

theorem unbroken_escape {quote : Char} (visible : quote ≠ '\n') (c : Char) :
    Unbroken (Text.escape quote c) := by
  unfold Text.escape
  split_ifs with special lineBreak back tab printable short long
  · have other : '\n' ≠ c := by
      rintro rfl
      simp [visible.symm] at special
    simp [Unbroken, other]
  · simp [Unbroken]
  · simp [Unbroken]
  · simp [Unbroken]
  · simpa [Unbroken] using Ne.symm lineBreak
  · simp +decide
  · simp +decide
  · simp +decide

/-- Whatever a text holds, in quotes it is one line. -/
@[simp] theorem unbroken_quoted (text : String) : Unbroken (Text.quoted text) := by
  have visible : Text.enclosing text.toList ≠ '\n' := by
    unfold Text.enclosing
    split <;> decide
  have mark : Unbroken (Text.enclosing text.toList).toString := by
    simpa [Unbroken] using visible.symm
  unfold Text.quoted
  rw [unbroken_append, unbroken_append, unbroken_join]
  refine ⟨⟨mark, fun part member => ?_⟩, mark⟩
  obtain ⟨c, -, rfl⟩ := List.mem_map.mp member
  exact unbroken_escape visible c

end TapeSwarm
