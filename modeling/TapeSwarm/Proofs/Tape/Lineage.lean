import TapeSwarm.Proofs.Tape.Growth
import TapeSwarm.Proofs.Threshold
import TapeSwarm.Random.Scripted

/-!
# Copies of copies

A copy keeps every instruction where it is, within the limits of length, and may turn filler into
anything near, an instruction included. What is filled up is instructions. So along a line of copies
instructions are gained and never lost.

Lengths settle at once: a first copy has a length between the shortest and the longest, and a tape
of such a length is copied whole, with nothing added (`inherits_replicate`). From there on
`Inherits` relates any two tapes of a line, since it is transitive.

Result: `lineage_keeps_instructions`.
-/

namespace TapeSwarm.Tape

open Draws

variable {σ : Type} [RandomSource σ]

/-! ## One byte -/

theorem toNat_nudge (b : UInt8) (drift : Int) :
    ((nudge b drift).toNat : Int) = (b.toNat + drift) % 256 := by
  have nonneg : 0 ≤ ((b.toNat : Int) + drift) % 256 := Int.emod_nonneg _ (by decide)
  have below : ((b.toNat : Int) + drift) % 256 < 256 := Int.emod_lt_of_pos _ (by decide)
  have small : (((b.toNat : Int) + drift) % 256).toNat < 256 := by omega
  unfold nudge
  rw [UInt8.toNat_ofNat_of_lt' small, Int.toNat_of_nonneg nonneg]

/-- What the copy of a byte can be where the fraction drawn for it is `f`. -/
structure IsCopy (fidelity : Float) (b : UInt8) (f : Float) (copied : UInt8) : Prop where
  instruction : isInstruction b = true → copied = b
  filler : isInstruction b = false → ∃ drift : Int, -2 ≤ drift ∧ drift ≤ 2 ∧
    (copied.toNat : Int) = (b.toNat + drift) % 256 ∧ (f < fidelity → drift = 0)

theorem isCopy_copyByte (fidelity : Float) (b : UInt8) (drift : Fin 5) (f : Float) :
    IsCopy fidelity b f (copyByte fidelity b drift f) := by
  unfold copyByte
  split
  · next drifts =>
    obtain ⟨filler, notBelow⟩ := (Bool.and_eq_true _ _).mp drifts
    have small := drift.isLt
    refine ⟨fun instruction => ?_,
      fun _ => ⟨drift.val - 2, by omega, by omega, ?_, fun below => ?_⟩⟩
    · rw [instruction] at filler
      contradiction
    · exact toNat_nudge b _
    · exact absurd (of_decide_eq_true notBelow) (Threshold.not_le_of_lt below)
  · refine ⟨fun _ => rfl, fun _ => ⟨0, by decide, by decide, ?_, fun _ => rfl⟩⟩
    have byte := b.toNat_lt
    omega

/-! ## One copy -/

/-- The fractions that a copy draws, one for every byte of the tape. -/
def fractionsFor (tape : Tape) (s : σ) : List Float :=
  (repeated fraction tape.length (repeated (upTo 4) tape.length s).2).1

/-- Every byte of a tape within the longest length has its copy at its own place. -/
theorem exists_isCopy (fidelity : Float) (tape : Tape) (s : σ) {i : Nat}
    (inside : i < min longest tape.length) :
    ∃ b f copied, tape[i]? = some b ∧ (fractionsFor tape s)[i]? = some f ∧
      (replicate fidelity tape s).1[i]? = some copied ∧ IsCopy fidelity b f copied := by
  obtain ⟨short, inTape⟩ := Nat.lt_min.mp inside
  let drifts := (repeated (upTo 4) tape.length s).1
  have inDrifts : i < drifts.length := by rwa [length_repeated]
  have inFractions : i < (fractionsFor tape s).length := by rwa [fractionsFor, length_repeated]
  have inCopy : i < (copy fidelity tape drifts (fractionsFor tape s)).length := by
    rw [length_copy]
    exact Nat.lt_min.mpr ⟨Nat.lt_min.mpr ⟨inTape, inDrifts⟩, inFractions⟩
  refine ⟨tape[i], (fractionsFor tape s)[i], _, List.getElem?_eq_getElem inTape,
    List.getElem?_eq_getElem inFractions, ?_,
    isCopy_copyByte fidelity tape[i] drifts[i] (fractionsFor tape s)[i]⟩
  show ((copy fidelity tape drifts (fractionsFor tape s) ++ _).take longest)[i]? = _
  rw [List.getElem?_take_of_lt short, List.getElem?_append_left inCopy,
    List.getElem?_eq_getElem inCopy]
  simp [copy]

/-- What fills a copy up is instructions. -/
theorem isInstruction_padding (fidelity : Float) (tape : Tape) (s : σ) {i : Nat} {b : UInt8}
    (beyond : tape.length ≤ i) (found : (replicate fidelity tape s).1[i]? = some b) :
    isInstruction b = true := by
  let drifts := repeated (upTo 4) tape.length s
  let fractions := repeated fraction tape.length drifts.2
  let copied := copy fidelity tape drifts.1 fractions.1
  let padding := drawInstructions (shortest - copied.length) fractions.2
  have made : (replicate fidelity tape s).1 = (copied ++ padding.1).take longest := rfl
  have few : copied.length ≤ i := by
    rw [length_copy]
    omega
  have member : b ∈ padding.1 := by
    rw [made, List.getElem?_take] at found
    split at found
    · rw [List.getElem?_append_right few] at found
      exact List.mem_of_getElem? found
    · contradiction
  exact (always_drawInstructions _ fractions.2).2 b member

/-! ## Lines of copies -/

/-- The second tape is as long as the first one and has each of its instructions at its place. -/
structure Inherits (tape later : Tape) : Prop where
  length : later.length = tape.length
  instruction : ∀ (i : Nat) b, tape[i]? = some b → isInstruction b = true → later[i]? = some b

theorem inherits_refl (tape : Tape) : tape.Inherits tape :=
  ⟨rfl, fun _ _ found _ => found⟩

theorem Inherits.trans {tape middle later : Tape} (first : tape.Inherits middle)
    (second : middle.Inherits later) : tape.Inherits later where
  length := second.length.trans first.length
  instruction i b found isInstruction :=
    second.instruction i b (first.instruction i b found isInstruction) isInstruction

theorem Inherits.complexity_le {tape later : Tape} (inherits : tape.Inherits later) :
    tape.complexity ≤ later.complexity := by
  refine complexity_le_of_forall inherits.length fun i a b original copied isInstruction => ?_
  have kept := inherits.instruction i a original isInstruction
  obtain rfl := Option.some.inj (copied.symm.trans kept)
  exact isInstruction

/-- A tape of a length within the limits is copied whole. -/
theorem inherits_replicate (fidelity : Float) {tape : Tape} (atLeast : shortest ≤ tape.length)
    (atMost : tape.length ≤ longest) :
    Always (replicate fidelity tape : Draws σ Tape) tape.Inherits := by
  intro s
  have length : (replicate fidelity tape s).1.length = _ := length_replicate fidelity tape s
  refine ⟨by rw [length]; omega, fun i b found isInstruction => ?_⟩
  have inTape := (List.getElem?_eq_some_iff.mp found).1
  obtain ⟨_, f, copied, original, _, copy, isCopy⟩ :=
    exists_isCopy fidelity tape s (Nat.lt_min.mpr ⟨Nat.lt_of_lt_of_le inTape atMost, inTape⟩)
  obtain rfl := Option.some.inj (found.symm.trans original)
  rw [copy, isCopy.instruction isInstruction]

/-- The tape at the end of a line of copies, each made with a fidelity and from a source of its
own. -/
def lineage (founder : Tape) (copies : List (Float × σ)) : Tape :=
  copies.foldl (fun tape (fidelity, s) => (replicate fidelity tape s).1) founder

theorem inherits_lineage {tape : Tape} (atLeast : shortest ≤ tape.length)
    (atMost : tape.length ≤ longest) (copies : List (Float × σ)) :
    tape.Inherits (tape.lineage copies) := by
  induction copies generalizing tape with
  | nil => exact inherits_refl tape
  | cons first rest ih =>
    obtain ⟨fidelity, s⟩ := first
    have once : tape.Inherits (replicate fidelity tape s).1 :=
      inherits_replicate fidelity atLeast atMost s
    rw [← once.length] at atLeast atMost
    exact once.trans (ih atLeast atMost)

/-- The first copy already has a length within the limits. -/
theorem length_lineage {founder : Tape} {copies : List (Float × σ)}
    (settled : copies ≠ [] ∨ shortest ≤ founder.length ∧ founder.length ≤ longest) :
    shortest ≤ (founder.lineage copies).length ∧ (founder.lineage copies).length ≤ longest := by
  cases copies with
  | nil => exact settled.resolve_left fun some => some rfl
  | cons first rest =>
    obtain ⟨fidelity, s⟩ := first
    have order : shortest ≤ longest := by decide
    have length : (replicate fidelity founder s).1.length = _ := length_replicate fidelity founder s
    have atLeast : shortest ≤ (replicate fidelity founder s).1.length := by omega
    have atMost : (replicate fidelity founder s).1.length ≤ longest := by omega
    have kept := (inherits_lineage atLeast atMost rest).length
    rw [← kept] at atLeast atMost
    exact ⟨atLeast, atMost⟩

/-- What any copy keeps, and what a line of copies keeps. A copy has the length of its tape, brought
between 8 and 64. Each byte of the tape that has a place in the copy is there if it is an
instruction; if not, what is there is at most two away from it, and nothing away where the fraction
drawn for the place is below the fidelity. Bytes beyond the tape are instructions. Any two tapes of
a line of copies that come after its founder have the same length, and the later one has all
instructions of the earlier one at their places, and no fewer in all. The founder itself counts as
such a tape if its length is from 8 to 64. -/
theorem lineage_keeps_instructions :
    (∀ (fidelity : Float) (tape : Tape) (s : σ),
      let child := (replicate fidelity tape s).1
      child.length = min 64 (max 8 tape.length) ∧
        (∀ i < min 64 tape.length, ∃ b f copied, tape[i]? = some b ∧
          (fractionsFor tape s)[i]? = some f ∧ child[i]? = some copied ∧
          (isInstruction b = true → copied = b) ∧
          (isInstruction b = false → ∃ drift : Int, -2 ≤ drift ∧ drift ≤ 2 ∧
            (copied.toNat : Int) = (b.toNat + drift) % 256 ∧ (f < fidelity → drift = 0))) ∧
        ∀ i b, tape.length ≤ i → child[i]? = some b → isInstruction b = true) ∧
    ∀ (founder : Tape) (earlier later : List (Float × σ)),
      earlier ≠ [] ∨ 8 ≤ founder.length ∧ founder.length ≤ 64 →
      let one := founder.lineage earlier
      let other := founder.lineage (earlier ++ later)
      other.length = one.length ∧
        (∀ (i : Nat) b, one[i]? = some b → isInstruction b = true → other[i]? = some b) ∧
        one.complexity ≤ other.complexity := by
  refine ⟨fun fidelity tape s => ⟨length_replicate fidelity tape s, fun i inside => ?_,
    fun i b => isInstruction_padding fidelity tape s⟩, fun founder earlier later settled => ?_⟩
  · obtain ⟨b, f, copied, original, drawn, copy, isCopy⟩ := exists_isCopy fidelity tape s inside
    exact ⟨b, f, copied, original, drawn, copy, isCopy.instruction, isCopy.filler⟩
  · intro one other
    obtain ⟨atLeast, atMost⟩ := length_lineage settled
    have joined : one.lineage later = other := List.foldl_append.symm
    have inherits : one.Inherits other := joined ▸ inherits_lineage atLeast atMost later
    exact ⟨inherits.length, inherits.instruction, inherits.complexity_le⟩

/-- A tape of three bytes, copied three times. Its filler drifts onto an instruction, which the
copies after it keep. -/
theorem lineage_keeps_instructions_short :
    let founder : Tape := [43, 92, 0]
    let first : Float × Scripted := (0.5, Scripted.ofLists [1] [0.75])
    let later : List (Float × Scripted) :=
      [(0, Scripted.ofLists [4] [0]), (1, Scripted.ofLists [0] [0.5])]
    (1 < min 64 founder.length ∧ ∃ drift : Int, -2 ≤ drift ∧ drift ≤ 2 ∧ 91 = (92 + drift) % 256) ∧
      ([first] ≠ [] ∨ 8 ≤ founder.length ∧ founder.length ≤ 64) ∧
      founder.lineage [first] = [43, 91, 255, 60, 60, 60, 60, 60] ∧
      (founder.lineage ([first] ++ later)).length = 8 ∧
      (founder.lineage ([first] ++ later))[1]? = some 91 ∧
      7 ≤ (founder.lineage ([first] ++ later)).complexity := by
  intro founder first later
  have settled : [first] ≠ [] ∨ 8 ≤ founder.length ∧ founder.length ≤ 64 :=
    .inl (List.cons_ne_nil _ _)
  have once : founder.lineage [first] = [43, 91, 255, 60, 60, 60, 60, 60] := by decide +kernel
  obtain ⟨keeps, settles⟩ := lineage_keeps_instructions (σ := Scripted)
  have near : ∃ drift : Int, -2 ≤ drift ∧ drift ≤ 2 ∧ 91 = (92 + drift) % 256 := by
    obtain ⟨_, _, copied, original, _, copy, _, filler⟩ :=
      (keeps first.1 founder first.2).2.1 1 (by decide)
    obtain rfl := Option.some.inj original
    have found : some copied = some 91 := copy.symm.trans (congrArg (·[1]?) once)
    obtain rfl := Option.some.inj found
    obtain ⟨drift, atLeast, atMost, moved, _⟩ := filler rfl
    exact ⟨drift, atLeast, atMost, moved⟩
  obtain ⟨length, instruction, complexity⟩ := settles founder [first] later settled
  rw [once] at length instruction complexity
  exact ⟨⟨by decide, near⟩, settled, once, length, instruction 1 91 rfl rfl, complexity⟩

end TapeSwarm.Tape
