import TapeSwarm.Proofs.Tape.Growth
import TapeSwarm.Proofs.Threshold
import TapeSwarm.Random.Scripted

/-!
# Tapes grown with different ratios

All that a grown tape consists of is drawn before the ratio is looked at: filler, instructions and
the fractions that choose between them. Two ratios therefore choose from the same draws. Where a
fraction is below the lesser ratio it is below the greater one, too, so that the greater ratio only
ever puts an instruction where the lesser one left filler (`favours_choice`).

Result: `drawTape_favours_greater_ratio`.
-/

namespace TapeSwarm.Tape

open Draws

variable {σ : Type} [RandomSource σ]

/-! ## One place -/

/-- What two ratios, the lesser one first, can have put at a place whose fraction is `f`. -/
structure Favours (lesser greater f : Float) (a b : UInt8) : Prop where
  instruction : a ≠ b → isInstruction b = true
  belowLesser : f < lesser → a = b ∧ isInstruction a = true
  belowGreater : f < greater → isInstruction b = true

theorem favours_choice {lesser greater : Float} (order : lesser ≤ greater) (f : Float)
    (filler : UInt8) {i : UInt8} (isInstruction : isInstruction i = true) :
    Favours lesser greater f (if f < lesser then i else filler)
      (if f < greater then i else filler) := by
  by_cases belowLesser : f < lesser
  · have belowGreater := Threshold.lt_of_lt_of_le belowLesser order
    rw [if_pos belowLesser, if_pos belowGreater]
    exact ⟨fun _ => isInstruction, fun _ => ⟨rfl, isInstruction⟩, fun _ => isInstruction⟩
  · rw [if_neg belowLesser]
    refine ⟨fun differ => ?_, fun below => absurd below belowLesser, fun below => ?_⟩
    · split
      · exact isInstruction
      · next notBelow => exact absurd (if_neg notBelow).symm differ
    · rwa [if_pos below]

theorem Favours.isInstruction {lesser greater f : Float} {a b : UInt8}
    (favours : Favours lesser greater f a b) (instruction : isInstruction a = true) :
    TapeSwarm.isInstruction b = true := by
  by_cases same : a = b
  · exact same ▸ instruction
  · exact favours.instruction same

/-! ## Whole tapes -/

/-- Draws the fractions of a tape after its filler and its instructions. -/
def drawFractions (length : Nat) (s : σ) : List Float × σ :=
  repeated fraction length (drawInstructions length (drawFiller length s).2).2

/-- The fractions that a tape of some length draws, one for every place. -/
def choosingFractions (length : Nat) (s : σ) : List Float :=
  (drawFractions length s).1

theorem length_choosingFractions (length : Nat) (s : σ) :
    (choosingFractions length s).length = length :=
  length_repeated _ _ _

/-- The fractions are the last that is drawn, whatever the ratio. -/
theorem snd_drawTape (length : Nat) (ratio : Float) (s : σ) :
    (drawTape length ratio s).2 = (drawFractions length s).2 :=
  rfl

theorem getElem?_blend (ratio : Float) {filler instructions : Tape} {fractions : List Float}
    {place : Nat} {b i : UInt8} {f : Float} (first : filler[place]? = some b)
    (second : instructions[place]? = some i) (third : fractions[place]? = some f) :
    (blend ratio filler instructions fractions)[place]? = some (if f < ratio then i else b) := by
  have zipped : ((filler.zip instructions).zip fractions)[place]? = some ((b, i), f) := by
    rw [List.getElem?_zip_eq_some, List.getElem?_zip_eq_some]
    exact ⟨⟨first, second⟩, third⟩
  rw [blend, List.getElem?_map, zipped]
  rfl

/-- Place by place, two ratios have chosen from the same draws. -/
theorem exists_favours {lesser greater : Float} (order : lesser ≤ greater) (length : Nat) (s : σ)
    {place : Nat} (inside : place < length) :
    ∃ a b f, (drawTape length lesser s).1[place]? = some a ∧
      (drawTape length greater s).1[place]? = some b ∧
      (choosingFractions length s)[place]? = some f ∧ Favours lesser greater f a b := by
  let filler := drawFiller length s
  let instructions := drawInstructions length filler.2
  obtain ⟨all, areInstructions⟩ := always_drawInstructions length filler.2
  have inFiller : place < filler.1.length := (length_drawFiller length s).symm ▸ inside
  have inInstructions : place < instructions.1.length := all.symm ▸ inside
  have inFractions : place < (choosingFractions length s).length :=
    (length_choosingFractions length s).symm ▸ inside
  have first := List.getElem?_eq_getElem inFiller
  have second := List.getElem?_eq_getElem inInstructions
  have third := List.getElem?_eq_getElem inFractions
  exact ⟨_, _, _, getElem?_blend lesser first second third,
    getElem?_blend greater first second third, third,
    favours_choice order _ _ (areInstructions _ (List.getElem_mem inInstructions))⟩

/-- A source that has room for a length gives a tape of that length. -/
theorem grow_of_room {length choices : Nat} {s : σ}
    (bytes : RandomSource.countBytes s (length : Int) = .ok length)
    (counted : RandomSource.countChoices s (length : Int) = .ok choices) (ratio : Float) :
    grow length (.double ratio) s =
      ((drawTape length ratio s).2, .ok (drawTape length ratio s).1) := by
  rw [grow, bytes, counted]
  rfl

/-- What a number of bytes grows into under another ratio takes the same draws, and fails alike. -/
theorem grow_alike (number : Int) (one other : Float) (s : σ) :
    (grow number (.double one) s).1 = (grow number (.double other) s).1 ∧
      ∀ fault, (grow number (.double one) s).2 = .error fault ↔
        (grow number (.double other) s).2 = .error fault := by
  unfold grow
  split
  · exact ⟨rfl, fun _ => Iff.rfl⟩
  · exact ⟨rfl, fun _ => Iff.rfl⟩
  · exact ⟨rfl, fun _ => ⟨nofun, nofun⟩⟩

/-- Tapes grown with a lesser and a greater ratio from one source take the same draws and have the
length asked for. Where they differ, the tape of the greater ratio has an instruction. Where the
fraction drawn is below the lesser ratio, they have the same instruction. The tape of the greater
ratio has no fewer instructions, and nothing else if all fractions are below that ratio. A source
that has room for the length gives these tapes, and one that refuses it refuses it for either
ratio. -/
theorem drawTape_favours_greater_ratio (length : Nat) {lesser greater : Float}
    (order : lesser ≤ greater) (s : σ) :
    let one := drawTape length lesser s
    let other := drawTape length greater s
    let fractions := choosingFractions length s
    one.2 = other.2 ∧ one.1.length = length ∧ other.1.length = length ∧ fractions.length = length ∧
      (∀ place < length, ∃ a b f,
        one.1[place]? = some a ∧ other.1[place]? = some b ∧ fractions[place]? = some f ∧
          (a ≠ b → isInstruction b = true) ∧
          (f < lesser → a = b ∧ isInstruction a = true)) ∧
      one.1.complexity ≤ other.1.complexity ∧
      ((∀ f ∈ fractions, f < greater) → ∀ b ∈ other.1, isInstruction b = true) ∧
      (∀ choices, RandomSource.countBytes s (length : Int) = .ok length →
        RandomSource.countChoices s (length : Int) = .ok choices →
        grow length (.double lesser) s = (one.2, .ok one.1) ∧
          grow length (.double greater) s = (other.2, .ok other.1)) ∧
      (grow length (.double lesser) s).1 = (grow length (.double greater) s).1 ∧
      ∀ fault, (grow length (.double lesser) s).2 = .error fault ↔
        (grow length (.double greater) s).2 = .error fault := by
  intro one other fractions
  have lengthOne : one.1.length = length := length_drawTape length lesser s
  have lengthOther : other.1.length = length := length_drawTape length greater s
  have draws : one.2 = other.2 := by rw [snd_drawTape, snd_drawTape]
  refine ⟨draws, lengthOne, lengthOther, length_choosingFractions length s, fun place inside => ?_,
    ?_, fun below b member => ?_, fun choices bytes counted => ?_, grow_alike length _ _ s⟩
  · obtain ⟨a, b, f, first, second, drawn, favours⟩ := exists_favours order length s inside
    exact ⟨a, b, f, first, second, drawn, favours.instruction, favours.belowLesser⟩
  · refine complexity_le_of_forall (lengthOther.trans lengthOne.symm)
      fun place a b first second isInstruction => ?_
    have inside := (List.getElem?_eq_some_iff.mp first).1
    obtain ⟨a', b', f, first', second', _, favours⟩ :=
      exists_favours order length s (lengthOne ▸ inside)
    obtain rfl := Option.some.inj (first.symm.trans first')
    obtain rfl := Option.some.inj (second.symm.trans second')
    exact favours.isInstruction isInstruction
  · obtain ⟨place, inside, rfl⟩ := List.mem_iff_getElem.mp member
    obtain ⟨_, b, f, _, second, drawn, favours⟩ :=
      exists_favours order length s (lengthOther ▸ inside)
    obtain rfl := Option.some.inj ((List.getElem?_eq_getElem inside).symm.trans second)
    exact favours.belowGreater (below f (List.mem_of_getElem? drawn))
  · exact ⟨grow_of_room bytes counted lesser, grow_of_room bytes counted greater⟩

/-- Two ratios at three places: an instruction for both, an instruction in the place of another one
that was filler, and one in the place of filler of another kind. -/
theorem drawTape_favours_greater_ratio_short :
    let s := Scripted.ofLists [7, 43, 9, 0, 1, 2] [0.125, 0.375, 0.25]
    let one := drawTape 3 0.25 s
    let other := drawTape 3 0.5 s
    (0.25 : Float) ≤ 0.5 ∧ one.1 = [62, 43, 9] ∧ other.1 = [62, 60, 43] ∧
      (∃ a b f, one.1[0]? = some a ∧ other.1[0]? = some b ∧ f < 0.25 ∧
        a = b ∧ isInstruction a = true) ∧
      (∃ a b, one.1[1]? = some a ∧ other.1[1]? = some b ∧ a ≠ b ∧ isInstruction b = true) ∧
      one.1.complexity ≤ other.1.complexity ∧
      ((∀ f ∈ choosingFractions 3 s, f < 0.5) ∧ ∀ b ∈ other.1, isInstruction b = true) ∧
      (RandomSource.countBytes s (3 : Nat) = .ok 3 ∧
        RandomSource.countChoices s (3 : Nat) = .ok 3) ∧
      (grow (3 : Nat) (.double 0.25) s).2 = .ok [62, 43, 9] := by
  intro s one other
  have order : (0.25 : Float) ≤ 0.5 := by decide +kernel
  have fewer : one.1 = [62, 43, 9] := by decide +kernel
  have more : other.1 = [62, 60, 43] := by decide +kernel
  have early : (choosingFractions 3 s)[0]?.any (· < 0.25) = true := by decide +kernel
  have below : ∀ f ∈ choosingFractions 3 s, f < 0.5 := by decide +kernel
  obtain ⟨_, _, _, _, places, complexity, onlyInstructions, room, _⟩ :=
    drawTape_favours_greater_ratio 3 order s
  have both : ∃ a b f, one.1[0]? = some a ∧ other.1[0]? = some b ∧ f < 0.25 ∧
      a = b ∧ isInstruction a = true := by
    obtain ⟨a, b, f, first, second, drawn, _, same⟩ := places 0 (by decide)
    rw [drawn] at early
    have less : f < 0.25 := of_decide_eq_true early
    exact ⟨a, b, f, first, second, less, same less⟩
  have chosen : ∃ a b, one.1[1]? = some a ∧ other.1[1]? = some b ∧ a ≠ b ∧
      isInstruction b = true := by
    obtain ⟨a, b, _, first, second, _, instruction, _⟩ := places 1 (by decide)
    have differ : a ≠ b := by
      rintro rfl
      rw [fewer] at first
      rw [more] at second
      cases first.trans second.symm
    exact ⟨a, b, first, second, differ, instruction differ⟩
  have bytes : RandomSource.countBytes s (3 : Nat) = .ok 3 := rfl
  have counted : RandomSource.countChoices s (3 : Nat) = .ok 3 := rfl
  refine ⟨order, fewer, more, both, chosen, complexity, ⟨below, onlyInstructions below⟩,
    ⟨bytes, counted⟩, ?_⟩
  rw [(room 3 bytes counted).1]
  exact congrArg Except.ok fewer

end TapeSwarm.Tape
