import Mathlib.Algebra.BigOperators.Fin
import Mathlib.Algebra.Field.Rat
import Mathlib.Data.Int.ModEq
import Mathlib.Tactic.Ring
import TapeSwarm.Phenotype.Signature

/-!
# The hash of a text is a polynomial

The code points of a text are the coefficients of a polynomial, the last one the constant, and the
hash is its value at 31 in words of 32 bits. Words are added and multiplied as integers are modulo
`2 ^ 32`, so it makes no difference when a hash is brought back to 32 bits: never (`polynomial`),
after each code point as a number without a sign, or after each as a signed number (`looped`). One
induction has all of them (`foldl_modEq`). It starts from any hash, which gives the hash of two
texts in a row.

The signed hash may be the least number of 32 bits, whose absolute value is no signed number of 32
bits. The fingerprint takes it as an integer, so this is a hash like all others.

Result: `hash_is_polynomial`.
-/

namespace TapeSwarm.Signature

/-! ## Three ways to a hash -/

/-- The value at 31 of the polynomial with these coefficients, the last one its constant. -/
def polynomial (codes : List ℕ) : ℕ :=
  ∑ i : Fin codes.length, codes[i] * 31 ^ (codes.length - 1 - i)

/-- One round of a hash of integers, by a shift and a subtraction, and what wraps the outcome. -/
def round (wrap : ℤ → ℤ) (h : ℤ) (code : ℕ) : ℤ :=
  wrap ((h <<< (5 : ℕ)) - h + code)

/-- The hash of integers that is wrapped after each code point. -/
def looped (wrap : ℤ → ℤ) (codes : List ℕ) : ℤ :=
  codes.foldl (round wrap) 0

/-- The number without a sign that the lowest 32 bits of an integer stand for. -/
def unsignedBits (n : ℤ) : ℤ :=
  (BitVec.ofInt 32 n).toNat

/-- The signed number that the lowest 32 bits of an integer stand for. -/
def signedBits (n : ℤ) : ℤ :=
  (BitVec.ofInt 32 n).toInt

theorem polynomial_cons (code : ℕ) (rest : List ℕ) :
    polynomial (code :: rest) = code * 31 ^ rest.length + polynomial rest := by
  have powers (i : Fin rest.length) : rest.length - (i + 1) = rest.length - 1 - i := by omega
  simp [polynomial, Fin.sum_univ_succ, powers]

/-- Whatever multiplies by 31 and adds, up to multiples of `2 ^ 32`, computes the polynomial, with
what it starts from as one more coefficient. -/
theorem foldl_modEq {σ : Type} (extendBy : σ → ℕ → σ) (value : σ → ℤ)
    (each : ∀ h code, value (extendBy h code) ≡ value h * 31 + code [ZMOD 2 ^ 32])
    (h : σ) (codes : List ℕ) :
    value (codes.foldl extendBy h) ≡
      value h * 31 ^ codes.length + polynomial codes [ZMOD 2 ^ 32] := by
  induction codes generalizing h with
  | nil => simp [polynomial]
  | cons code rest ih =>
    calc
      value (rest.foldl extendBy (extendBy h code)) ≡
          value (extendBy h code) * 31 ^ rest.length + polynomial rest [ZMOD 2 ^ 32] := ih _
      _ ≡ (value h * 31 + code) * 31 ^ rest.length + polynomial rest [ZMOD 2 ^ 32] :=
        ((each h code).mul_right _).add_right _
      _ = value h * 31 ^ (code :: rest).length + polynomial (code :: rest) := by
        rw [polynomial_cons, List.length_cons]
        push_cast
        ring

/-! ## Words -/

theorem toNat_extend_modEq (h : UInt32) (code : ℕ) :
    ((extend h code).toNat : ℤ) ≡ h.toNat * 31 + code [ZMOD 2 ^ 32] := by
  have value : (extend h code).toNat = (h.toNat * 31 + code) % 2 ^ 32 := by
    simp [extend, Nat.add_mod]
  rw [value]
  push_cast
  exact Int.mod_modEq _ _

theorem signed_eq_bmod (h : UInt32) : signed h = (h.toNat : ℤ).bmod (2 ^ 32) := by
  have few : h.toNat < 2 ^ 32 := h.toNat_lt
  have small : (h.toNat : ℤ) % ((2 ^ 32 : ℕ) : ℤ) = h.toNat := by omega
  rw [Int.bmod_def, small, signed]
  split
  · omega
  · omega

theorem signed_modEq (h : UInt32) : signed h ≡ h.toNat [ZMOD 2 ^ 32] := by
  rw [signed_eq_bmod]
  exact Int.bmod_emod

theorem signed_bounds (h : UInt32) : -2 ^ 31 ≤ signed h ∧ signed h < 2 ^ 31 := by
  rw [signed_eq_bmod]
  exact ⟨Int.le_bmod (by decide), Int.bmod_lt (by decide)⟩

theorem shift_sub (h : ℤ) : (h <<< (5 : ℕ)) - h = h * 31 := by
  rw [Int.shiftLeft_eq]
  ring

theorem round_unsignedBits (h : UInt32) (code : ℕ) :
    round unsignedBits h.toNat code = (extend h code).toNat := by
  have few : (extend h code).toNat < 2 ^ 32 := (extend h code).toNat_lt
  have same := (toNat_extend_modEq h code).symm
  unfold Int.ModEq at same
  rw [round, unsignedBits, BitVec.toNat_ofInt, shift_sub]
  omega

theorem round_signedBits (h : UInt32) (code : ℕ) :
    round signedBits (signed h) code = signed (extend h code) := by
  have same : signed h * 31 + code ≡ (extend h code).toNat [ZMOD 2 ^ 32] :=
    (((signed_modEq h).mul_right 31).add_right _).trans (toNat_extend_modEq h code).symm
  have balanced := congrArg (Int.bmod · (2 ^ 32)) same
  rw [round, signedBits, BitVec.toInt_ofInt, shift_sub, signed_eq_bmod (extend h code)]
  exact (Int.emod_bmod _ _).symm.trans (balanced.trans (Int.emod_bmod _ _))

/-! ## Texts -/

/-- A reading of words that one round of the loop keeps is kept by all of them. -/
theorem looped_eq {wrap : ℤ → ℤ} {value : UInt32 → ℤ} (zero : value 0 = 0)
    (each : ∀ h code, round wrap (value h) code = value (extend h code))
    (codes : List ℕ) : looped wrap codes = value (hash codes) := by
  rw [looped, ← zero]
  exact List.foldl_hom value each

theorem looped_unsignedBits (codes : List ℕ) : looped unsignedBits codes = (hash codes).toNat :=
  looped_eq rfl round_unsignedBits codes

theorem looped_signedBits (codes : List ℕ) : looped signedBits codes = signed (hash codes) :=
  looped_eq rfl round_signedBits codes

theorem toNat_eq_of_modEq {h : UInt32} {n : ℕ} (same : (h.toNat : ℤ) ≡ n [ZMOD 2 ^ 32]) :
    h.toNat = n % 2 ^ 32 := by
  have few : h.toNat < 2 ^ 32 := h.toNat_lt
  unfold Int.ModEq at same
  omega

theorem hash_modEq (codes : List ℕ) :
    ((hash codes).toNat : ℤ) ≡ polynomial codes [ZMOD 2 ^ 32] := by
  have value := foldl_modEq extend (fun h => (h.toNat : ℤ)) toNat_extend_modEq 0 codes
  simpa [hash] using value

/-- A text in front of another is a coefficient in front of its code points. -/
theorem toNat_hash_append (codes more : List ℕ) :
    (hash (codes ++ more)).toNat =
      ((hash codes).toNat * 31 ^ more.length + (hash more).toNat) % 2 ^ 32 := by
  have value := foldl_modEq extend (fun h => (h.toNat : ℤ)) toNat_extend_modEq (hash codes) more
  have rest := (hash_modEq more).symm.add_left ((hash codes).toNat * 31 ^ more.length : ℤ)
  rw [hash, List.foldl_append]
  refine toNat_eq_of_modEq ((value.trans rest).trans ?_)
  push_cast
  rfl

/-- A text of which the signed hash is the least number of 32 bits. -/
def leastText : List ℕ :=
  "polygenelubricants".toList.map Char.toNat

/-- The hash of a text, for any number of code points of any size. It is a polynomial in 31 modulo
`2 ^ 32`, also where it is wrapped after each code point, with a sign or without. As a signed number
it is one of 32 bits. The hashes of two texts and the length of the second one determine the hash of
both in a row. The fingerprint has the last four decimal digits of the signed hash, without its
sign, over ten thousand; the least signed number is the hash of a text, and has digits too. -/
theorem hash_is_polynomial (codes more : List ℕ) :
    looped unsignedBits codes = (hash codes).toNat ∧
      (hash codes).toNat = polynomial codes % 2 ^ 32 ∧
      (hash (codes ++ more)).toNat =
        ((hash codes).toNat * 31 ^ more.length + (hash more).toNat) % 2 ^ 32 ∧
      (let h := signed (hash codes)
       looped signedBits codes = h ∧ h ≡ polynomial codes [ZMOD 2 ^ 32] ∧
         -2 ^ 31 ≤ h ∧ h < 2 ^ 31 ∧
         digits codes = h.natAbs % 10000 ∧ digits codes ≤ 9999) ∧
      ofCodes ℚ codes = (digits codes : ℚ) / 10000 ∧
      ofCodes Float codes = Float.ofInt (digits codes) / Float.ofInt 10000 ∧
      signed (hash leastText) = -2 ^ 31 ∧ digits leastText = 3648 := by
  have value := (signed_modEq (hash codes)).trans (hash_modEq codes)
  have few : digits codes < 10000 := Nat.mod_lt _ (by decide)
  obtain ⟨atLeast, below⟩ := signed_bounds (hash codes)
  refine ⟨looped_unsignedBits codes, toNat_eq_of_modEq (hash_modEq codes),
    toNat_hash_append codes more, ?_, ?_, rfl, ?_, ?_⟩
  · exact ⟨looped_signedBits codes, value, atLeast, below, rfl, Nat.le_of_lt_succ few⟩
  · simp [ofCodes, Scale.ofInt]
  · decide +kernel
  · decide +kernel

end TapeSwarm.Signature
