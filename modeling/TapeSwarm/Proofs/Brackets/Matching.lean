import TapeSwarm.Machine.Request
import TapeSwarm.Proofs.Outline.Table

/-!
# Which brackets are partners

Two brackets match if what stands between them is balanced. The scan pairs exactly the brackets that
match before the first stray `]`, its *reach*.

Both sides are read off the *height* of a tape at a position, the opening brackets before it less
the closing ones. Brackets match if the height behind the first one comes again before the second
and is not left downwards in between (`matches_iff`). `Scanned` ties the state of a scan to heights:
every bracket that waits stands as high as the number of those waiting behind it says, and the
height has not been lower since. So a closing bracket matches the one on top, and no other
(`Matches.eq_of_close`).

Result: `ofTape_holds_matches`.
-/

namespace TapeSwarm

namespace Tape

/-- As many opening as closing brackets, and never more closing ones from the left. -/
def Balanced (tape : Tape) : Prop :=
  tape.count openByte = tape.count closeByte ∧ tape.NoStray

structure Matches (tape : Tape) (i j : Nat) : Prop where
  before : i < j
  opening : tape[i]? = some openByte
  closing : tape[j]? = some closeByte
  between : Balanced ((tape.take j).drop (i + 1))

/-- The first position at which there are more closing than opening brackets up to there, or the
length of the tape if there is none. -/
def reach (tape : Tape) : Nat :=
  ((List.range tape.length).find? fun i =>
    (tape.take (i + 1)).count openByte < (tape.take (i + 1)).count closeByte).getD tape.length

/-! ## Heights -/

/-- The opening brackets before a position, less the closing ones. -/
def height (tape : Tape) (i : Nat) : Int :=
  (tape.take i).count openByte - (tape.take i).count closeByte

variable {tape : Tape} {i j k l : Nat}

theorem height_zero (tape : Tape) : tape.height 0 = 0 := rfl

theorem height_succ {b : UInt8} (found : tape[i]? = some b) :
    tape.height (i + 1) =
      tape.height i + (if b = openByte then 1 else 0) - (if b = closeByte then 1 else 0) := by
  unfold height
  rw [List.take_add_one, found, Option.toList_some, List.count_append, List.count_append,
    List.count_singleton, List.count_singleton]
  simp only [beq_iff_eq]
  split <;> split <;> omega

theorem height_open (found : tape[i]? = some openByte) :
    tape.height (i + 1) = tape.height i + 1 := by
  rw [height_succ found, if_pos rfl, if_neg (by decide), Int.sub_zero]

theorem height_close (found : tape[i]? = some closeByte) :
    tape.height (i + 1) = tape.height i - 1 := by
  rw [height_succ found, if_neg (by decide), if_pos rfl, Int.add_zero]

theorem height_plain {b : UInt8} (plain : isBracket b = false) (found : tape[i]? = some b) :
    tape.height (i + 1) = tape.height i := by
  rw [height_succ found, if_neg (ne_openByte plain), if_neg (ne_closeByte plain)]
  omega

/-- What stands between two positions changes the height by its own brackets. -/
theorem height_add (tape : Tape) (i n : Nat) :
    tape.height (i + n) = tape.height i + ((tape.drop i).take n).count openByte -
      ((tape.drop i).take n).count closeByte := by
  unfold height
  rw [List.take_add, List.count_append, List.count_append]
  omega

theorem balanced_iff {n : Nat} :
    Balanced ((tape.drop i).take n) ↔
      tape.height (i + n) = tape.height i ∧ ∀ l ≤ n, tape.height i ≤ tape.height (i + l) := by
  unfold Balanced
  refine and_congr ?_ ?_
  · rw [height_add]
    omega
  · constructor
    · intro matched l within
      have few := matched _ (List.take_prefix_take_left within)
      rw [height_add]
      omega
    · intro above front isFront
      have short : front.length ≤ n := Nat.le_trans isFront.length_le (List.length_take_le _ _)
      have enough := above front.length short
      rw [List.prefix_iff_eq_take.mp isFront, List.take_take, Nat.min_eq_left short]
      rw [height_add] at enough
      omega

/-- Brackets match if the height behind the first is that before the second, and is not left
downwards in between. -/
theorem matches_iff :
    tape.Matches i j ↔
      i < j ∧ tape[i]? = some openByte ∧ tape[j]? = some closeByte ∧
        tape.height j = tape.height (i + 1) ∧
        ∀ k, i < k → k ≤ j → tape.height (i + 1) ≤ tape.height k := by
  constructor
  · rintro ⟨before, opening, closing, between⟩
    obtain ⟨n, rfl⟩ := Nat.exists_eq_add_of_le before
    rw [List.drop_take, Nat.add_sub_cancel_left, balanced_iff] at between
    refine ⟨before, opening, closing, between.1, fun k behind within => ?_⟩
    obtain ⟨l, rfl⟩ := Nat.exists_eq_add_of_le behind
    exact between.2 l (Nat.le_of_add_le_add_left within)
  · rintro ⟨before, opening, closing, level, above⟩
    refine ⟨before, opening, closing, ?_⟩
    obtain ⟨n, rfl⟩ := Nat.exists_eq_add_of_le before
    rw [List.drop_take, Nat.add_sub_cancel_left, balanced_iff]
    exact ⟨level, fun l within => above _ (Nat.le_add_right _ _) (Nat.add_le_add_left within _)⟩

/-! ## Matches -/

/-- A bracket that opens inside a match is closed inside it. -/
theorem Matches.lt_of_lt (outer : tape.Matches i j) (inner : tape.Matches k l) (behind : i < k)
    (before : k < j) : l < j := by
  obtain ⟨_, _, _, level, above⟩ := matches_iff.mp outer
  obtain ⟨_, opening, _, _, aboveInner⟩ := matches_iff.mp inner
  refine Nat.lt_of_not_le fun crossed => ?_
  have start := above k behind (Nat.le_of_lt before)
  have finish := aboveInner j before crossed
  rw [height_open opening] at finish
  omega

/-- A closing bracket matches one opening bracket only. -/
theorem Matches.eq_of_close (first : tape.Matches i j) (second : tape.Matches k j) : i = k := by
  rcases Nat.lt_trichotomy i k with before | same | behind
  · exact absurd (first.lt_of_lt second before second.before) (Nat.lt_irrefl j)
  · exact same
  · exact absurd (second.lt_of_lt first behind first.before) (Nat.lt_irrefl j)

theorem Matches.le_of_open (first : tape.Matches i j) (second : tape.Matches i k) : k ≤ j := by
  obtain ⟨before, _, closing, level, _⟩ := matches_iff.mp first
  obtain ⟨_, _, _, _, above⟩ := matches_iff.mp second
  refine Nat.le_of_not_lt fun later => ?_
  have finish := above (j + 1) (Nat.lt_succ_of_lt before) later
  rw [height_close closing] at finish
  omega

/-- An opening bracket matches one closing bracket only. -/
theorem Matches.eq_of_open (first : tape.Matches i j) (second : tape.Matches i k) : j = k :=
  Nat.le_antisymm (second.le_of_open first) (first.le_of_open second)

/-- The brackets at two positions match, in either order. -/
def Partners (tape : Tape) (i j : Nat) : Prop :=
  tape.Matches i j ∨ tape.Matches j i

theorem Partners.symm (partners : tape.Partners i j) : tape.Partners j i :=
  Or.symm partners

theorem not_matches_matches (first : tape.Matches i j) (second : tape.Matches k i) : False := by
  have same := first.opening.symm.trans second.closing
  contradiction

theorem Partners.eq (first : tape.Partners i j) (second : tape.Partners i k) : j = k := by
  rcases first with first | first
  · rcases second with second | second
    · exact first.eq_of_open second
    · exact (not_matches_matches first second).elim
  · rcases second with second | second
    · exact (not_matches_matches second first).elim
    · exact first.eq_of_close second

/-- Whoever stands between partners has a partner between them. -/
theorem Partners.between (outer : tape.Partners i j) (inner : tape.Partners k l) (behind : i < k)
    (before : k < j) : i < l ∧ l < j := by
  have whole : tape.Matches i j := by
    rcases outer with whole | turned
    · exact whole
    · exact absurd turned.before (Nat.not_lt_of_lt (Nat.lt_trans behind before))
  rcases inner with opens | closes
  · exact ⟨Nat.lt_trans behind opens.before, whole.lt_of_lt opens behind before⟩
  · refine ⟨?_, Nat.lt_trans closes.before before⟩
    rcases Nat.lt_trichotomy i l with later | rfl | earlier
    · exact later
    · exact absurd (whole.eq_of_open closes) (Nat.ne_of_gt before)
    · exact absurd (closes.lt_of_lt whole earlier behind) (Nat.not_lt_of_lt before)

/-! ## The reach -/

/-- The reach is told by heights: up to there they are not negative, and behind it they are. -/
theorem reach_eq (within : i ≤ tape.length) (above : ∀ k ≤ i, 0 ≤ tape.height k)
    (below : i < tape.length → tape.height (i + 1) < 0) : tape.reach = i := by
  unfold reach
  rcases Nat.lt_or_eq_of_le within with inside | rfl
  · have first : (List.range tape.length).find? (fun i =>
        decide ((tape.take (i + 1)).count openByte < (tape.take (i + 1)).count closeByte)) =
          some i := by
      rw [List.find?_range_eq_some]
      refine ⟨?_, List.mem_range.mpr inside, fun k earlier => ?_⟩
      · have stray := below inside
        unfold height at stray
        rw [decide_eq_true_iff]
        omega
      · have fine := above (k + 1) earlier
        unfold height at fine
        rw [Bool.not_eq_true', decide_eq_false_iff_not]
        omega
    rw [first]
    rfl
  · have none : (List.range tape.length).find? (fun i =>
        decide ((tape.take (i + 1)).count openByte < (tape.take (i + 1)).count closeByte)) =
          none := by
      rw [List.find?_range_eq_none]
      intro k inside
      have fine := above (k + 1) inside
      unfold height at fine
      rw [Bool.not_eq_true', decide_eq_false_iff_not]
      omega
    rw [none]
    rfl

end Tape

/-! ## The scan -/

namespace Brackets

open Tape

/-- The state of a scan that has come to a position without meeting a stray bracket. -/
structure Scanned (tape : Tape) (i : Nat) (waiting : List Nat) (table : Brackets) : Prop where
  above : ∀ k ≤ i, 0 ≤ tape.height k
  depth : tape.height i = waiting.length
  waits : ∀ start rest, start :: rest <:+ waiting →
    start < i ∧ tape[start]? = some openByte ∧ tape.height (start + 1) = rest.length + 1 ∧
      ∀ k, start < k → k ≤ i → tape.height (start + 1) ≤ tape.height k
  closed : ∀ j < i, tape[j]? = some closeByte → ∃ k, tape.Matches k j
  known : ∀ a b, (a, b) ∈ table ↔ tape.Matches a b ∧ b < i ∨ tape.Matches b a ∧ a < i

variable {tape : Tape} {i start : Nat} {waiting : List Nat} {table : Brackets}

theorem scanned_start (tape : Tape) : Scanned tape 0 [] [] where
  above k start := by
    obtain rfl := Nat.le_zero.mp start
    exact Int.le_refl 0
  depth := height_zero tape
  waits start rest suffix := by simp at suffix
  closed j before := absurd before (Nat.not_lt_zero j)
  known a b := by simp

theorem matches_below_succ_of_ne (other : tape[i]? ≠ some closeByte) (a b : Nat) :
    tape.Matches a b ∧ b < i + 1 ↔ tape.Matches a b ∧ b < i := by
  constructor
  · rintro ⟨found, within⟩
    refine ⟨found, Nat.lt_of_le_of_ne (Nat.le_of_lt_succ within) ?_⟩
    rintro rfl
    exact other found.closing
  · rintro ⟨found, within⟩
    exact ⟨found, Nat.lt_succ_of_lt within⟩

theorem matches_below_succ (found : tape.Matches start i) (a b : Nat) :
    tape.Matches a b ∧ b < i + 1 ↔ a = start ∧ b = i ∨ tape.Matches a b ∧ b < i := by
  constructor
  · rintro ⟨other, within⟩
    rcases Nat.lt_or_eq_of_le (Nat.le_of_lt_succ within) with before | rfl
    · exact .inr ⟨other, before⟩
    · exact .inl ⟨other.eq_of_close found, rfl⟩
  · rintro (⟨rfl, rfl⟩ | ⟨other, within⟩)
    · exact ⟨found, Nat.lt_succ_self _⟩
    · exact ⟨other, Nat.lt_succ_of_lt within⟩

/-- One byte further: every bracket that waits has waited before, or is the byte itself. The height
is still that of the brackets that wait, so it has not come below where any of them stands. -/
theorem Scanned.advance (scanned : Scanned tape i waiting table) {later : List Nat}
    {entered : Brackets} (depth : tape.height (i + 1) = later.length)
    (waits : ∀ start rest, start :: rest <:+ later → start :: rest <:+ waiting ∨
      start :: rest = later ∧ start = i ∧ tape[i]? = some openByte)
    (closed : tape[i]? = some closeByte → ∃ k, tape.Matches k i)
    (known : ∀ a b, (a, b) ∈ entered ↔
      tape.Matches a b ∧ b < i + 1 ∨ tape.Matches b a ∧ a < i + 1) :
    Scanned tape (i + 1) later entered := by
  refine ⟨fun k within => ?_, depth, fun start rest suffix => ?_, fun j within closing => ?_, known⟩
  · rcases Nat.lt_or_eq_of_le within with before | rfl
    · exact scanned.above k (Nat.le_of_lt_succ before)
    · rw [depth]
      exact Int.natCast_nonneg _
  · rcases waits start rest suffix with earlier | ⟨rfl, rfl, opening⟩
    · obtain ⟨before, opening, high, never⟩ := scanned.waits start rest earlier
      refine ⟨Nat.lt_succ_of_lt before, opening, high, fun k behind within => ?_⟩
      rcases Nat.lt_or_eq_of_le within with inside | rfl
      · exact never k behind (Nat.le_of_lt_succ inside)
      · rw [high, depth]
        exact Int.ofNat_le.mpr suffix.length_le
    · refine ⟨Nat.lt_succ_self _, opening, depth, fun k behind within => ?_⟩
      obtain rfl := Nat.le_antisymm within behind
      exact Int.le_refl _
  · rcases Nat.lt_or_eq_of_le (Nat.le_of_lt_succ within) with earlier | rfl
    · exact scanned.closed j earlier closing
    · exact closed closing

theorem Scanned.known_succ (scanned : Scanned tape i waiting table)
    (other : tape[i]? ≠ some closeByte) (a b : Nat) :
    (a, b) ∈ table ↔ tape.Matches a b ∧ b < i + 1 ∨ tape.Matches b a ∧ a < i + 1 := by
  rw [matches_below_succ_of_ne other, matches_below_succ_of_ne other]
  exact scanned.known a b

theorem Scanned.plain (scanned : Scanned tape i waiting table) {b : UInt8}
    (plain : isBracket b = false) (found : tape[i]? = some b) :
    Scanned tape (i + 1) waiting table := by
  have other : tape[i]? ≠ some closeByte := by
    rw [found]
    exact fun same => ne_closeByte plain (Option.some.inj same)
  refine scanned.advance ?_ (fun _ _ suffix => .inl suffix) (fun closing => absurd closing other)
    (scanned.known_succ other)
  rw [height_plain plain found, scanned.depth]

theorem Scanned.push (scanned : Scanned tape i waiting table) (found : tape[i]? = some openByte) :
    Scanned tape (i + 1) (i :: waiting) table := by
  have other : tape[i]? ≠ some closeByte := by
    rw [found]
    decide
  refine scanned.advance ?_ (fun start rest suffix => ?_) (fun closing => absurd closing other)
    (scanned.known_succ other)
  · rw [height_open found, scanned.depth]
    rfl
  · rcases List.suffix_cons_iff.mp suffix with whole | earlier
    · exact .inr ⟨whole, (List.cons.inj whole).1, found⟩
    · exact .inl earlier

/-- A closing bracket matches the opening one that waits on top. -/
theorem Scanned.top_matches (scanned : Scanned tape i (start :: waiting) table)
    (found : tape[i]? = some closeByte) : tape.Matches start i := by
  obtain ⟨before, opening, high, never⟩ := scanned.waits start waiting (List.suffix_refl _)
  exact matches_iff.mpr ⟨before, opening, found, scanned.depth.trans high.symm, never⟩

theorem Scanned.pop (scanned : Scanned tape i (start :: waiting) table)
    (found : tape[i]? = some closeByte) :
    Scanned tape (i + 1) waiting ((i, start) :: (start, i) :: table) := by
  have top := scanned.top_matches found
  refine scanned.advance ?_ (fun _ _ suffix => .inl (suffix.trans (List.suffix_cons _ _)))
    (fun _ => ⟨start, top⟩) (fun a b => ?_)
  · rw [height_close found, scanned.depth, List.length_cons]
    omega
  · rw [matches_below_succ top, matches_below_succ top, List.mem_cons, List.mem_cons, scanned.known,
      Prod.mk.injEq, Prod.mk.injEq]
    constructor
    · rintro (new | new | old | old)
      · exact .inr (.inl ⟨new.2, new.1⟩)
      · exact .inl (.inl new)
      · exact .inl (.inr old)
      · exact .inr (.inr old)
    · rintro ((new | old) | (new | old))
      · exact .inr (.inl new)
      · exact .inr (.inr (.inl old))
      · exact .inl ⟨new.2, new.1⟩
      · exact .inr (.inr (.inr old))

/-- A scan comes as far as its tape reaches, and stops there if the tape goes on. -/
theorem Scanned.finish {rest : Tape} (scanned : Scanned tape i waiting table)
    (bytes : tape.drop i = rest) (within : i ≤ tape.length) :
    (∃ left, Scanned tape tape.reach left (scanFrom i waiting table rest).table) ∧
      (scanFrom i waiting table rest).stray =
        if tape.reach < tape.length then some tape.reach else none := by
  induction rest generalizing i waiting table with
  | nil =>
    have ended : tape.length ≤ i := List.drop_eq_nil_iff.mp bytes
    have reach : tape.reach = i :=
      reach_eq within scanned.above fun inside => absurd inside (Nat.not_lt_of_le ended)
    rw [reach, if_neg (Nat.not_lt_of_le ended)]
    exact ⟨⟨waiting, scanned⟩, rfl⟩
  | cons b rest ih =>
    have found := getElem?_of_drop_eq_cons bytes
    have behind := drop_succ_of_drop_eq_cons bytes
    have inside : i < tape.length := (List.getElem?_eq_some_iff.mp found).1
    rcases plain_or_bracket b with plain | rfl | rfl
    · rw [scanFrom_plain plain]
      exact ih (scanned.plain plain found) behind inside
    · rw [scanFrom_open]
      exact ih (scanned.push found) behind inside
    · cases waiting with
      | nil =>
        have reach : tape.reach = i := reach_eq within scanned.above fun _ => by
          rw [height_close found, scanned.depth]
          decide
        rw [scanFrom_stray, reach, if_pos inside]
        exact ⟨⟨[], scanned⟩, rfl⟩
      | cons start waiting =>
        rw [scanFrom_close]
        exact ih (scanned.pop found) behind inside

/-! ## The table -/

theorem mem_ofTape_iff {a b : Nat} :
    (a, b) ∈ ofTape tape ↔ (a < tape.reach ∧ b < tape.reach) ∧ tape.Partners a b := by
  obtain ⟨_, scanned⟩ := ((scanned_start tape).finish List.drop_zero (Nat.zero_le _)).1
  unfold ofTape scan
  rw [scanned.known]
  constructor
  · rintro (⟨found, within⟩ | ⟨found, within⟩)
    · exact ⟨⟨Nat.lt_trans found.before within, within⟩, .inl found⟩
    · exact ⟨⟨within, Nat.lt_trans found.before within⟩, .inr found⟩
  · rintro ⟨⟨first, second⟩, found | found⟩
    · exact .inl ⟨found, second⟩
    · exact .inr ⟨found, first⟩

/-- The table holds one entry for a position, so what is looked up is what it holds. -/
theorem partner?_eq_some_iff {a b : Nat} :
    (ofTape tape).partner? a = some b ↔ (a, b) ∈ ofTape tape := by
  refine ⟨mem_of_partner?, fun member => ?_⟩
  cases looked : (ofTape tape).partner? a with
  | none =>
    have absent := List.lookup_eq_none_iff.mp looked (a, b) member
    simp at absent
  | some c =>
    have known := mem_ofTape_iff.mp (mem_of_partner? looked)
    rw [known.2.eq (mem_ofTape_iff.mp member).2]

/-- The bracket table of a tape. Its entries are the brackets that match before the reach, in both
directions. So every closing bracket before the reach has a partner, an opening one has it if it
matches a closing one there, and nothing from the reach on has one. Partners are partners of each
other, nobody is their own, and partners of brackets between partners are between them, too. A stray
bracket is reported if the reach is not the whole tape, and with the reach as its position. -/
theorem ofTape_holds_matches (tape : Tape) :
    let table := ofTape tape
    let s := tape.reach
    (∀ i j, (i, j) ∈ table ↔ (i < s ∧ j < s) ∧ (tape.Matches i j ∨ tape.Matches j i)) ∧
      (∀ i j, table.partner? i = some j ↔ (i, j) ∈ table) ∧
      (∀ j < s, tape[j]? = some closeByte → (table.partner? j).isSome) ∧
      (∀ i < s, tape[i]? = some openByte →
        ((table.partner? i).isSome ↔ ∃ j < s, tape.Matches i j)) ∧
      (∀ i, s ≤ i → table.partner? i = none) ∧
      (∀ i j, table.partner? i = some j → table.partner? j = some i ∧ j ≠ i) ∧
      (∀ i j k l, table.partner? i = some j → table.partner? k = some l →
        i < k → k < j → i < l ∧ l < j) ∧
      Machine.loadingEvents tape = if s < tape.length then [.strayBracket s] else [] := by
  intro table s
  obtain ⟨⟨_, scanned⟩, stray⟩ := (scanned_start tape).finish List.drop_zero (Nat.zero_le _)
  have looked (i j : Nat) :
      table.partner? i = some j ↔ (i < s ∧ j < s) ∧ tape.Partners i j :=
    partner?_eq_some_iff.trans mem_ofTape_iff
  refine ⟨fun _ _ => mem_ofTape_iff, fun _ _ => partner?_eq_some_iff, ?_, ?_, ?_, ?_, ?_, ?_⟩
  · intro j before closing
    obtain ⟨k, found⟩ := scanned.closed j before closing
    exact Option.isSome_iff_exists.mpr
      ⟨k, (looked j k).mpr ⟨⟨before, Nat.lt_trans found.before before⟩, .inr found⟩⟩
  · intro i before opening
    rw [Option.isSome_iff_exists]
    constructor
    · rintro ⟨j, paired⟩
      obtain ⟨⟨_, within⟩, found | found⟩ := (looked i j).mp paired
      · exact ⟨j, within, found⟩
      · have same := opening.symm.trans found.closing
        contradiction
    · rintro ⟨j, within, found⟩
      exact ⟨j, (looked i j).mpr ⟨⟨before, within⟩, .inl found⟩⟩
  · intro i beyond
    cases paired : table.partner? i with
    | none => rfl
    | some j => exact absurd ((looked i j).mp paired).1.1 (Nat.not_lt_of_le beyond)
  · intro i j paired
    obtain ⟨⟨first, second⟩, partners⟩ := (looked i j).mp paired
    refine ⟨(looked j i).mpr ⟨⟨second, first⟩, partners.symm⟩, ?_⟩
    rcases partners with found | found
    · exact Nat.ne_of_gt found.before
    · exact Nat.ne_of_lt found.before
  · intro i j k l outer inner behind before
    exact ((looked i j).mp outer).2.between ((looked k l).mp inner).2 behind before
  · unfold Machine.loadingEvents scan
    rw [stray]
    split
    · rfl
    · rfl

end Brackets

end TapeSwarm
