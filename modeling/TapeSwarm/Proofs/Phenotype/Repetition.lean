import Mathlib.Algebra.BigOperators.Group.Finset.Basic
import Mathlib.Algebra.BigOperators.Group.Finset.Piecewise
import Mathlib.Algebra.Order.BigOperators.Group.Finset
import Mathlib.Data.Nat.Count
import TapeSwarm.Phenotype.Genotype

/-!
# Repetition in a code

Two numbers tell how much a code repeats itself. `repeats` has the windows of three that come again
further on; `repeated` has the windows of two and of three that are not the only ones of their kind.
Both are found by tables, in one pass over the windows.

Here they are counted by kinds. Of all windows of a kind but the last one, each comes again, so
`repeats` is what is left of the windows when one of each kind is taken away
(`recurring_add_card`). A window is not alone unless its kind has one window only
(`shared_add_card`). As these are counts of kinds, the order of the windows does not matter, nor
does the direction in which each of them is read.

Result: `repetition_by_kinds`.
-/

namespace TapeSwarm.Genotype

open Finset

/-! ## Members of a list -/

section Members

variable {γ : Type} [BEq γ] [LawfulBEq γ]

section Kinds

variable [DecidableEq γ]

theorem sum_count (list : List γ) : ∑ b ∈ list.toFinset, list.count b = list.length := by
  -- the library counts by the equality that is decided
  obtain rfl : ‹BEq γ› = instBEqOfDecidableEq := lawful_beq_subsingleton _ _
  exact list.sum_toFinset_count_eq_length

/-- A kind has two members, or its one member is alone. -/
theorem two_mul_card_le (list : List γ) :
    2 * list.toFinset.card ≤ list.length + #{b ∈ list.toFinset | list.count b = 1} := by
  have each : ∀ b ∈ list.toFinset, 2 ≤ list.count b + if list.count b = 1 then 1 else 0 := by
    intro b member
    have positive : 0 < list.count b := List.count_pos_iff.mpr (List.mem_toFinset.mp member)
    split
    · omega
    · omega
  calc
    2 * list.toFinset.card = ∑ _b ∈ list.toFinset, 2 := by
      rw [sum_const_nat fun _ _ => rfl, mul_comm]
    _ ≤ ∑ b ∈ list.toFinset, (list.count b + if list.count b = 1 then 1 else 0) := sum_le_sum each
    _ = list.length + #{b ∈ list.toFinset | list.count b = 1} := by
      rw [sum_add_distrib, sum_count, card_filter]

end Kinds

variable [Hashable γ]

theorem shared_perm {list other : List γ} (perm : list.Perm other) :
    shared list = shared other := by
  rw [shared_eq_countP, shared_eq_countP]
  exact perm.countP_congr fun b _ => by rw [perm.count_eq]

theorem shared_map {rename : γ → γ} (injective : rename.Injective) (list : List γ) :
    shared (list.map rename) = shared list := by
  simp only [shared_eq_countP, List.countP_map, Function.comp_def,
    List.count_map_of_injective list rename injective]

/-- A member of a family counts if an equal one has a later index. -/
theorem recurring_family (family : ℕ → γ) (n : ℕ) [DecidableEq γ] :
    recurring ((List.range n).map family) = #{i ∈ range n |
      ∃ j ∈ range n, i < j ∧ family j = family i} := by
  rw [← Nat.count_eq_card_filter_range]
  induction n generalizing family with
  | zero => rfl
  | succ n ih =>
    have first : (List.map (family ∘ Nat.succ) (List.range n)).contains (family 0) = true ↔
        ∃ j ∈ range (n + 1), 0 < j ∧ family j = family 0 := by
      simp only [List.contains_iff_mem, List.mem_map, List.mem_range, mem_range,
        Nat.exists_lt_succ_left, lt_irrefl, false_and, false_or, Nat.succ_pos, true_and,
        Function.comp_apply]
    have later (i : ℕ) : (∃ j ∈ range (n + 1), i + 1 < j ∧ family j = family (i + 1)) ↔
        ∃ j ∈ range n, i < j ∧ (family ∘ Nat.succ) j = (family ∘ Nat.succ) i := by
      simp only [mem_range, Nat.exists_lt_succ_left, Nat.not_lt_zero, false_and, false_or,
        Nat.add_lt_add_iff_right, Function.comp_apply]
    rw [List.range_succ_eq_map, List.map_cons, List.map_map, recurring_cons, ih, Nat.count_succ',
      add_comm]
    simp only [first, later]

variable [DecidableEq γ]

/-- The members of a list that come again are all but the last of each kind. -/
theorem recurring_add_card (list : List γ) : recurring list + list.toFinset.card = list.length := by
  induction list with
  | nil => rfl
  | cons b rest ih =>
    rw [recurring_cons, List.toFinset_cons, card_insert_eq_ite, List.length_cons, ← ih]
    by_cases again : b ∈ rest
    · simp only [List.contains_iff_mem, List.mem_toFinset, again, if_true]
      omega
    · simp only [List.contains_iff_mem, List.mem_toFinset, again, if_false]
      omega

theorem recurring_perm {list other : List γ} (perm : list.Perm other) :
    recurring list = recurring other := by
  have here := recurring_add_card list
  have there := recurring_add_card other
  rw [List.toFinset_eq_of_perm _ _ perm, perm.length_eq] at here
  omega

theorem recurring_map {rename : γ → γ} (injective : rename.Injective) (list : List γ) :
    recurring (list.map rename) = recurring list := by
  have kinds : (list.map rename).toFinset = list.toFinset.image rename := by ext; simp
  have renamed := recurring_add_card (list.map rename)
  have kept := recurring_add_card list
  rw [kinds, card_image_of_injective _ injective, List.length_map] at renamed
  omega

/-- Shared members, kind by kind. -/
theorem shared_eq_sum (list : List γ) :
    shared list = ∑ b ∈ list.toFinset with 1 < list.count b, list.count b := by
  let isShared (b : γ) : Bool := 1 < list.count b
  calc
    shared list = (list.filter isShared).length := by
      rw [shared_eq_countP, List.countP_eq_length_filter]
    _ = ∑ b ∈ (list.filter isShared).toFinset, (list.filter isShared).count b :=
      (sum_count _).symm
    _ = ∑ b ∈ list.toFinset with 1 < list.count b, list.count b := by
      rw [List.toFinset_filter]
      refine sum_congr (by simp [isShared]) fun b member => List.count_filter ?_
      simpa [isShared] using (mem_filter.mp member).2

/-- The members that are alone of their kind, with the shared ones, are all of them. -/
theorem shared_add_card (list : List γ) :
    shared list + #{b ∈ list.toFinset | list.count b = 1} = list.length := by
  have single {b : γ} (member : b ∈ list.toFinset) : ¬ 1 < list.count b ↔ list.count b = 1 := by
    have positive : 0 < list.count b := List.count_pos_iff.mpr (List.mem_toFinset.mp member)
    omega
  have alone : #{b ∈ list.toFinset | list.count b = 1} =
      ∑ b ∈ list.toFinset with ¬ 1 < list.count b, list.count b := by
    rw [card_eq_sum_ones, filter_congr fun b member => single member]
    exact sum_congr rfl fun b member => (mem_filter.mp member).2.symm
  rw [shared_eq_sum, alone, sum_filter_add_sum_filter_not, sum_count]

end Members

/-! ## Windows of a code -/

section Windows

variable {β : Type} [DecidableEq β]

/-- The `n` neighbours from a place on. -/
def window (n : ℕ) (code : List β) (place : ℕ) : List β :=
  (code.drop place).take n

/-- The places from which a code has `n` neighbours. -/
def places (n : ℕ) (code : List β) : Finset ℕ :=
  range (code.length + 1 - n)

/-- How often a window stands in a code; its occurrences may overlap. -/
def occurrences (n : ℕ) (code : List β) (w : List β) : ℕ :=
  card {i ∈ places n code | window n code i = w}

/-- The different windows of a code. -/
def kinds (n : ℕ) (code : List β) : Finset (List β) :=
  (places n code).image (window n code)

/-- The windows that stand in a code once only. -/
def unique (n : ℕ) (code : List β) : Finset (List β) :=
  {w ∈ kinds n code | occurrences n code w = 1}

omit [DecidableEq β] in
theorem windows_eq_map {n : ℕ} (positive : 0 < n) (code : List β) :
    windows n code = (List.range (code.length + 1 - n)).map (window n code) := by
  induction code with
  | nil =>
    have none : ([] : List β).length + 1 - n = 0 := by simp; omega
    rw [none]
    rfl
  | cons b rest ih =>
    have full : ((b :: rest).take n).length = n ↔ n ≤ rest.length + 1 := by simp
    rw [windows]
    by_cases fits : n ≤ rest.length + 1
    · have more : (b :: rest).length + 1 - n = rest.length + 1 - n + 1 := by simp; omega
      rw [if_pos (full.mpr fits), ih, more, List.range_succ_eq_map, List.map_cons, List.map_map]
      rfl
    · have none : (b :: rest).length + 1 - n = 0 := by simp; omega
      rw [if_neg (full.not.mpr fits), none]
      rfl

omit [DecidableEq β] in
/-- Backwards, a code has its windows backwards, from the last one on. -/
theorem window_reverse {n : ℕ} {code : List β} {i : ℕ} (fits : i + n ≤ code.length) :
    window n code.reverse i = (window n code (code.length - i - n)).reverse := by
  have length : (code.take (code.length - i)).length = code.length - i := by simp
  have width : code.length - i - (code.length - i - n) = n := by omega
  unfold window
  rw [List.drop_reverse, List.take_reverse, length, List.drop_take, width]

omit [DecidableEq β] in
theorem windows_reverse {n : ℕ} (positive : 0 < n) (code : List β) :
    windows n code.reverse = ((windows n code).map List.reverse).reverse := by
  rw [windows_eq_map positive, windows_eq_map positive, List.length_reverse]
  refine List.ext_getElem (by simp) fun i here there => ?_
  have fits : i + n ≤ code.length := by simp at here; omega
  have place : code.length - i - n = code.length + 1 - n - 1 - i := by omega
  simp [window_reverse fits, place]

theorem toFinset_windows {n : ℕ} (positive : 0 < n) (code : List β) :
    (windows n code).toFinset = kinds n code := by
  rw [windows_eq_map positive]
  ext w
  simp [kinds, places]

theorem count_windows {n : ℕ} (positive : 0 < n) (code : List β) (w : List β) :
    (windows n code).count w = occurrences n code w := by
  have equal : ((· == w) ∘ window n code) = fun i => decide (window n code i = w) := by
    funext i
    simp [beq_eq_decide]
  rw [windows_eq_map positive, List.count, List.countP_map, equal]
  exact Nat.count_eq_card_filter_range _ _

theorem filter_windows {n : ℕ} (positive : 0 < n) (code : List β) :
    {w ∈ (windows n code).toFinset | (windows n code).count w = 1} = unique n code := by
  simp only [toFinset_windows positive, count_windows positive]
  rfl

omit [DecidableEq β] in
theorem length_windows {n : ℕ} (positive : 0 < n) (code : List β) :
    (windows n code).length = code.length + 1 - n := by
  rw [windows_eq_map positive, List.length_map, List.length_range]

variable [Hashable β]

/-- A window comes again if a later place has it. -/
theorem repeats_eq_card (code : List β) :
    repeats code = #{i ∈ places 3 code |
      ∃ j ∈ places 3 code, i < j ∧ window 3 code j = window 3 code i} := by
  rw [repeats, windows_eq_map (by decide)]
  exact recurring_family _ _

theorem repeats_add_card (code : List β) :
    repeats code + #(kinds 3 code) = code.length - 2 := by
  rw [repeats, ← toFinset_windows (by decide), recurring_add_card, length_windows (by decide)]
  rfl

theorem shared_windows_eq_sum {n : ℕ} (positive : 0 < n) (code : List β) :
    shared (windows n code) =
      ∑ w ∈ kinds n code with 1 < occurrences n code w, occurrences n code w := by
  simp only [shared_eq_sum, toFinset_windows positive, count_windows positive]

theorem shared_windows_add_card {n : ℕ} (positive : 0 < n) (code : List β) :
    shared (windows n code) + #(unique n code) = code.length + 1 - n := by
  rw [← filter_windows positive, shared_add_card, length_windows positive]

/-- The shared windows of three are at least as many as those that come again, and at most twice as
many. -/
theorem shared_windows_bounds (code : List β) :
    repeats code ≤ shared (windows 3 code) ∧ shared (windows 3 code) ≤ 2 * repeats code := by
  have again := repeats_add_card code
  have notAlone := shared_windows_add_card (n := 3) (by decide) code
  have twice := two_mul_card_le (windows 3 code)
  have some : #(unique 3 code) ≤ #(kinds 3 code) := card_filter_le _ _
  rw [filter_windows (by decide), toFinset_windows (by decide), length_windows (by decide)] at twice
  omega

theorem repeats_reverse (code : List β) : repeats code.reverse = repeats code := by
  rw [repeats, windows_reverse (by decide), recurring_perm (List.reverse_perm _),
    recurring_map List.reverse_injective]
  rfl

theorem shared_windows_reverse {n : ℕ} (positive : 0 < n) (code : List β) :
    shared (windows n code.reverse) = shared (windows n code) := by
  rw [windows_reverse positive, shared_perm (List.reverse_perm _),
    shared_map List.reverse_injective]

theorem repeated_reverse (code : List β) : repeated code.reverse = repeated code := by
  rw [repeated, shared_windows_reverse (by decide), shared_windows_reverse (by decide)]
  rfl

/-- The two measures of repetition, for codes of any length and of whatever characters. A code of
length `L` has `L - 2` windows of three. Those that stand at a later place again are all of them but
one of each kind. `repeated` is the sum, over both widths, of the occurrences of those windows that
stand in the code more than once: it leaves out what is unique. `common 3` is the part of it that
has the windows of three. It is between `repeats` and twice that, so that one is zero if the other
is. Neither measure depends on the direction in which the code is read. -/
theorem repetition_by_kinds (code : List β) :
    repeats code = #{i ∈ places 3 code |
        ∃ j ∈ places 3 code, i < j ∧ window 3 code j = window 3 code i} ∧
      repeats code + #(kinds 3 code) = code.length - 2 ∧
      (let common n := ∑ w ∈ kinds n code with 1 < occurrences n code w, occurrences n code w
       repeated code = common 2 + common 3 ∧
         repeated code + #(unique 2 code) = code.length - 1 + common 3 ∧
         common 3 + #(unique 3 code) = code.length - 2 ∧
         repeats code ≤ common 3 ∧ common 3 ≤ 2 * repeats code ∧
         (common 3 = 0 ↔ repeats code = 0)) ∧
      repeats code.reverse = repeats code ∧ repeated code.reverse = repeated code := by
  refine ⟨repeats_eq_card code, repeats_add_card code, ?_, repeats_reverse code,
    repeated_reverse code⟩
  intro common
  have sums {n : ℕ} (positive : 0 < n) : shared (windows n code) = common n :=
    shared_windows_eq_sum positive code
  have parts : repeated code = common 2 + common 3 :=
    congrArg₂ (· + ·) (sums (by decide)) (sums (by decide))
  have pairs := shared_windows_add_card (n := 2) (by decide) code
  have triples := shared_windows_add_card (n := 3) (by decide) code
  obtain ⟨atLeast, atMost⟩ := shared_windows_bounds code
  rw [sums (by decide)] at pairs triples atLeast
  rw [sums (by decide)] at atMost
  refine ⟨parts, ?_, triples, atLeast, atMost, ?_⟩
  · have widths : common 2 + #(unique 2 code) = code.length - 1 := pairs
    omega
  · omega

/-- Windows of five equal characters overlap, and each counts. -/
example : repeats [43, 43, 43, 43, (43 : UInt8)] = 2 ∧
    repeated [43, 43, 43, 43, (43 : UInt8)] = 4 + 3 := by cbv

end Windows

end TapeSwarm.Genotype
