import TapeSwarm.Random.Source

/-!
A seeded source: a congruential generator with a permuted output.

A seed of any length is spread over a pool of four words by multiplicative hashing, and the pool is
stretched to the generator's starting state and increment. The state is a number of 128 bits that
moves by an affine map; what is drawn is the exclusive or of its halves, rotated by its top bits.
Bounded integers use half a draw each and reject the few values that would favour small results.
-/

namespace TapeSwarm

/-- A word that hashing multiplies by, and how the words of the pool are made. -/
structure Hashing where
  factor : UInt32
  word : UInt32

namespace Hashing

/-- Hashes one word; the hashing constant moves on. -/
def next (h : Hashing) (v : UInt32) : UInt32 × Hashing :=
  let factor := h.factor * h.word
  let v := (v ^^^ h.factor) * factor
  (v ^^^ (v >>> 16), { h with factor })

/-- Mixes a hashed word into a word of the pool. -/
def mix (x y : UInt32) : UInt32 :=
  let r := 0xca01f9dd * x - 0x4973f715 * y
  r ^^^ (r >>> 16)

end Hashing

/-- The four words over which a seed is spread. -/
abbrev SeedPool := Vector UInt32 4

namespace SeedPool

/-- The hashing that spreads a seed. -/
def spreading : Hashing := ⟨0x43b0d7e5, 0x931e8875⟩

/-- The hashing that stretches a pool. -/
def stretching : Hashing := ⟨0x8b51f9dd, 0x58f38ded⟩

/-- The 32-bit words of a number, the least significant first; zero has one word. -/
def wordsOf (seed : Nat) : List UInt32 :=
  if small : seed < 4294967296 then [seed.toUInt32]
  else seed.toUInt32 :: wordsOf (seed / 4294967296)
termination_by seed
decreasing_by omega

/-- The positions of a pool. -/
def positions : List (Fin 4) := [0, 1, 2, 3]

/-- Puts a hashed word at a position. -/
def fillAt (words : List UInt32) (state : SeedPool × Hashing) (i : Fin 4) : SeedPool × Hashing :=
  let (v, h) := state.2.next (words[i.val]?.getD 0)
  (state.1.set i v, h)

/-- Mixes a word into a position, hashing it anew. -/
def mixAt (word : SeedPool → UInt32) (state : SeedPool × Hashing) (i : Fin 4) :
    SeedPool × Hashing :=
  let (v, h) := state.2.next (word state.1)
  (state.1.set i (Hashing.mix state.1[i] v), h)

/-- Mixes the word at a position into all others. -/
def mixOthers (state : SeedPool × Hashing) (s : Fin 4) : SeedPool × Hashing :=
  (positions.filter (· ≠ s)).foldl (mixAt fun pool => pool[s]) state

/-- Mixes a word of a long seed into all positions. -/
def mixWord (state : SeedPool × Hashing) (word : UInt32) : SeedPool × Hashing :=
  positions.foldl (mixAt fun _ => word) state

/-- The pool of a seed: the first four words fill it and are mixed with each other, then every
further word is mixed into all of it. -/
def ofSeed (seed : Nat) : SeedPool :=
  let words := wordsOf seed
  let filled := positions.foldl (fillAt words) (Vector.replicate 4 0, spreading)
  let crossed := positions.foldl mixOthers filled
  ((words.drop 4).foldl mixWord crossed).1

/-- Hashes words one after the other. -/
def hashAll : Hashing → List UInt32 → List UInt32
  | _, [] => []
  | h, word :: rest =>
    let (v, h) := h.next word
    v :: hashAll h rest

/-- The eight words stretched from a pool, which is gone through twice. -/
def stretched (pool : SeedPool) : List UInt32 :=
  hashAll stretching (pool.toList ++ pool.toList)

end SeedPool

/-- The generator: state, increment, and the upper half of a draw whose lower half was used. -/
structure Permuted where
  state : BitVec 128
  increment : BitVec 128
  saved : Option UInt32

namespace Permuted

/-- The factor of the affine map. -/
def factor : BitVec 128 := 0x2360ED051FC65DA44385DF649FCCF645#128

/-- Moves the state by the affine map. -/
def advance (g : Permuted) : Permuted :=
  { g with state := g.state * factor + g.increment }

/-- A word of 128 bits from four of 32; each pair has its low half first, and the pairs the high. -/
def wide (a b c d : UInt32) : BitVec 128 :=
  b.toBitVec ++ a.toBitVec ++ d.toBitVec ++ c.toBitVec

/-- The generator of a seed. -/
def ofSeed (seed : Nat) : Permuted :=
  match (SeedPool.ofSeed seed).stretched with
  | [a, b, c, d, e, f, g, h] =>
    let increment := (wide e f g h <<< 1) ||| 1#128
    let start : Permuted := ⟨0, increment, none⟩
    let moved := start.advance
    { moved with state := moved.state + wide a b c d }.advance
  | _ => ⟨0, 1, none⟩

/-- Draws 64 bits. -/
def next64 (g : Permuted) : UInt64 × Permuted :=
  let g := g.advance
  let folded : BitVec 64 := (g.state >>> 64).setWidth 64 ^^^ g.state.setWidth 64
  (UInt64.ofBitVec (folded.rotateRight (g.state >>> 122).toNat), g)

/-- Draws 32 bits: the saved half, or the lower half of a new draw. -/
def next32 (g : Permuted) : UInt32 × Permuted :=
  match g.saved with
  | some half => (half, { g with saved := none })
  | none =>
    let (v, g) := g.next64
    (v.toUInt32, { g with saved := some (v >>> 32).toUInt32 })

/-- How many values half a draw has. -/
def halfRange : Nat := 4294967296

/-- Draws products of 32 bits and `n` until the lower half is at least `least`. -/
def reject (n least : Nat) : Nat → Nat → Permuted → Nat × Permuted
  | 0, product, g => (product, g)
  | fuel + 1, product, g =>
    if product % halfRange < least then
      let (v, g) := g.next32
      reject n least fuel (v.toNat * n) g
    else (product, g)

/-- How often a value may be rejected. A draw is rejected less than every second time, so that this
many rejections in a row do not happen. -/
def patience : Nat := 4096

/-- Draws an integer up to `last` from the upper half of a product; a sole answer needs no draw. -/
def nextUpTo (g : Permuted) (last : Nat) : Fin (last + 1) × Permuted :=
  if last = 0 then (⟨0, Nat.succ_pos last⟩, g)
  else
    let n := last + 1
    let (v, g) := g.next32
    let (product, g) := reject n ((halfRange - n) % n) patience (v.toNat * n) g
    (⟨product / halfRange % n, Nat.mod_lt _ (Nat.succ_pos last)⟩, g)

/-- Draws a fraction with 53 bits. -/
def nextFraction (g : Permuted) : Float × Permuted :=
  let (v, g) := g.next64
  ((v >>> 11).toFloat / 9007199254740992.0, g)

/-- Draws a block of bytes: every fourth byte takes a new draw, lower bytes first, and what is left
of the last draw is dropped. -/
def nextBlock (g : Permuted) (count : Nat) : Vector UInt8 count × Permuted :=
  let (bytes, g, _) := go count
  (bytes, g)
where
  go : (k : Nat) → Vector UInt8 k × Permuted × UInt32
    | 0 => (#v[], g, 0)
    | k + 1 =>
      let (earlier, g, pending) := go k
      let (word, g) := if k % 4 = 0 then g.next32 else (pending, g)
      (earlier.push word.toUInt8, g, word >>> 8)

/-- How many bytes a number asks for. -/
def countBytes (number : Int) : Except RandomFault Nat :=
  (Capacity.check Capacity.usualRoom .byte number).mapError .capacity

/-- How many choices a number asks for; each takes a word, and so does their number. -/
def countChoices (number : Int) : Except RandomFault Nat :=
  if Capacity.reach number = .none then .error .noWord
  else (Capacity.check Capacity.usualRoom .word number).mapError .capacity

instance : RandomSource Permuted where
  upTo := nextUpTo
  fraction := nextFraction
  block := nextBlock
  countBytes _ := countBytes
  countChoices _ := countChoices

end Permuted

end TapeSwarm
