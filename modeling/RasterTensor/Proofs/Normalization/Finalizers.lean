import RasterTensor.Proofs.Binary.Nearest
import RasterTensor.Tensor.Normalize

/-!
# Rounding to elements

An element of 32 bits is the nearest integer of a number where it fits, and an element of 8 bits is
the nearest integer clamped to those that fit. So the one is the other clamped, neither wraps
around, and both keep the order of the numbers.
-/

namespace RasterTensor

open Binary

variable {x y : Binary32} {i j : ℤ}

/-! ## Single numbers -/

theorem integerOfWord_wordOfInteger_signed {i : ℤ} (h : fitsSigned 32 i = true) :
    integerOfWord 32 (wordOfInteger 32 i) = i := by
  have hcount : wordCount 32 = 4294967296 := rfl
  have hhalf : wordCount (32 - 1) = 2147483648 := rfl
  rw [fitsSigned, hhalf, Bool.and_eq_true, decide_eq_true_eq, decide_eq_true_eq] at h
  rw [integerOfWord, wordOfInteger, hcount, hhalf]
  split <;> omega

theorem integerOfWord_roundToWord (h : x.number.RoundsTo i) (hfits : fitsSigned 32 i = true) :
    integerOfWord 32 (roundToWord x).toNat = i := by
  have hnearest := Number.roundsTo_iff.mp h
  have hlt : wordOfInteger 32 i < 2 ^ 32 := wordOfInteger_lt 32 i
  simp only [roundToWord, hnearest, wordOfInt, hfits, if_true]
  rw [UInt32.toNat_ofNat', Nat.mod_eq_of_lt hlt, integerOfWord_wordOfInteger_signed hfits]

theorem toNat_roundToByte (h : x.number.RoundsTo i) :
    ((roundToByte x).toNat : ℤ) = max 0 (min 255 i) := by
  have hnearest := Number.roundsTo_iff.mp h
  obtain ⟨q, ⟨s, m, e, hfinite, -⟩, -⟩ := h
  rw [hfinite] at hnearest
  simp only [roundToByte, hfinite, hnearest, Option.getD_some]
  rw [UInt8.toNat_ofNat', Nat.mod_eq_of_lt (by omega)]
  omega

theorem toNat_roundToByte_of_infinite {negative : Bool} (h : x.number = .infinite negative) :
    (roundToByte x).toNat = if negative then 0 else 255 := by
  simp only [roundToByte, h]
  cases negative <;> rfl

/-- Clamping keeps the order, and the infinities are at the ends of the range. -/
theorem toNat_roundToByte_mono (h : x.number.AtMost y.number) :
    (roundToByte x).toNat ≤ (roundToByte y).toNat := by
  have hlast := Nat.le_of_lt_succ (roundToByte x).toNat_lt
  generalize hx : x.number = a, hy : y.number = b at h
  cases h with
  | least =>
      rw [toNat_roundToByte_of_infinite hx]
      exact Nat.zero_le _
  | greatest =>
      rw [toNat_roundToByte_of_infinite hy]
      exact hlast
  | finite ha hb hle =>
      obtain ⟨i, -, hi⟩ := ha.exists_nearest
      obtain ⟨j, -, hj⟩ := hb.exists_nearest
      have hij := hi.mono hj hle
      have hxi := toNat_roundToByte (x := x) ⟨_, hx ▸ ha, hi⟩
      have hyj := toNat_roundToByte (x := y) ⟨_, hy ▸ hb, hj⟩
      omega

/-! ## Arrays -/

def StridedArray.floatAt (a : StridedArray) (k : Nat) : Binary32 :=
  ⟨.ofNat (wordAt a.content (k * 4) 4)⟩

/-- The natural number that an element stands for. -/
def Tensor.naturalAt (t : Tensor) (k : Nat) : Nat := (t.words.getD k 0).toNat

/-- The integer that an element stands for in two's complement. -/
def Tensor.integerAt (t : Tensor) (k : Nat) : Int := integerOfWord 32 (t.naturalAt k)

namespace StridedArray

variable {k : Nat}

theorem size_words_finalize (a : StridedArray) (element : ElementType) :
    (a.finalize element).words.size = a.count := by
  simp [finalize]

theorem naturalAt_finalize (a : StridedArray) (element : ElementType) (hk : k < a.count) :
    (a.finalize element).naturalAt k = (element.finalize (a.floatAt k)).toNat := by
  simp [finalize, Tensor.naturalAt, floatAt, Array.getD, hk]

theorem naturalAt_finalize_quantized8 (a : StridedArray) (hk : k < a.count) :
    (a.finalize .quantized8).naturalAt k = (roundToByte (a.floatAt k)).toNat := by
  rw [naturalAt_finalize a _ hk, ElementType.finalize, UInt8.toNat_toUInt32]

theorem integerAt_finalize_int32 (a : StridedArray) {i : Int} (hk : k < a.count)
    (hi : (a.floatAt k).number.RoundsTo i) (hlow : -2 ^ 31 ≤ i) (hhigh : i < 2 ^ 31) :
    (a.finalize .int32).integerAt k = i := by
  have hfits : fitsSigned 32 i = true := by
    have hhalf : (wordCount (32 - 1) : Int) = 2 ^ 31 := rfl
    rw [fitsSigned, hhalf, Bool.and_eq_true, decide_eq_true_eq, decide_eq_true_eq]
    exact ⟨hlow, hhigh⟩
  rw [Tensor.integerAt, naturalAt_finalize a _ hk]
  exact integerOfWord_roundToWord hi hfits

/-- The elements of an array of floats as bytes and as integers. A finite number becomes its nearest
integer, as a byte clamped to what a byte can hold and as an integer wherever 32 bits can hold it;
an infinity becomes the last byte on its side. Both keep the order. -/
theorem finalize_rounds (a : StridedArray) :
    (a.finalize .quantized8).shape = a.shape ∧ (a.finalize .int32).shape = a.shape ∧
    (a.finalize .quantized8).words.size = a.count ∧ (a.finalize .int32).words.size = a.count ∧
    (∀ k < a.count, (a.floatAt k).isNan = false →
      (∃ i, (a.floatAt k).number.RoundsTo i ∧
        ((a.finalize .quantized8).naturalAt k : Int) = max 0 (min 255 i) ∧
        (-2 ^ 31 ≤ i → i < 2 ^ 31 →
          (a.finalize .int32).integerAt k = i ∧
          ((a.finalize .quantized8).naturalAt k : Int) =
            max 0 (min 255 ((a.finalize .int32).integerAt k)))) ∨
      ∃ negative, (a.floatAt k).number = .infinite negative ∧
        (a.finalize .quantized8).naturalAt k = if negative then 0 else 255) ∧
    (∀ j < a.count, ∀ k < a.count, (a.floatAt j).number.AtMost (a.floatAt k).number →
      (a.finalize .quantized8).naturalAt j ≤ (a.finalize .quantized8).naturalAt k) ∧
    (∀ j < a.count, ∀ k < a.count, (a.floatAt j).number.AtMost (a.floatAt k).number →
      ∀ i i', (a.floatAt j).number.RoundsTo i → (a.floatAt k).number.RoundsTo i' →
        -2 ^ 31 ≤ i → i' < 2 ^ 31 →
          (a.finalize .int32).integerAt j ≤ (a.finalize .int32).integerAt k) := by
  refine ⟨rfl, rfl, size_words_finalize a _, size_words_finalize a _, ?_, ?_, ?_⟩
  · intro k hk hnan
    rw [naturalAt_finalize_quantized8 a hk]
    rcases Number.exists_roundsTo_or_infinite hnan with ⟨i, hi⟩ | ⟨negative, hinfinite⟩
    · left
      have hbyte := toNat_roundToByte hi
      refine ⟨i, hi, hbyte, ?_⟩
      intro hlow hhigh
      have hinteger := integerAt_finalize_int32 a hk hi hlow hhigh
      exact ⟨hinteger, by rw [hinteger, hbyte]⟩
    · right
      exact ⟨negative, hinfinite, toNat_roundToByte_of_infinite hinfinite⟩
  · intro j hj k hk hle
    rw [naturalAt_finalize_quantized8 a hj, naturalAt_finalize_quantized8 a hk]
    exact toNat_roundToByte_mono hle
  · intro j hj k hk hle i i' hi hi' hlow hhigh
    have hii' := hi.mono hi' hle
    rw [integerAt_finalize_int32 a hj hi hlow (hii'.trans_lt hhigh),
      integerAt_finalize_int32 a hk hi' (hlow.trans hii') hhigh]
    exact hii'

def threeFloats : StridedArray :=
  .packed ⟨.real, 4, false⟩ [3] ⟨#[0, 0, 32, 64, 0, 0, 150, 67, 0, 0, 128, 255]⟩

theorem finalize_rounds_threeFloats :
    (threeFloats.finalize .quantized8).naturalAt 0 = 2 ∧
      (threeFloats.finalize .quantized8).naturalAt 1 = 255 ∧
      (threeFloats.finalize .quantized8).naturalAt 2 = 0 ∧
      (threeFloats.finalize .int32).integerAt 0 = 2 ∧
      (threeFloats.finalize .int32).integerAt 1 = 300 := by
  obtain ⟨-, -, -, -, hvalues, -, -⟩ := finalize_rounds threeFloats
  have hrounded (k : Nat) (i : Int) (hk : k < threeFloats.count)
      (hnearest : (threeFloats.floatAt k).number.nearest? = some i) (hlow : -2 ^ 31 ≤ i)
      (hhigh : i < 2 ^ 31) :
      ((threeFloats.finalize .quantized8).naturalAt k : Int) = max 0 (min 255 i) ∧
        (threeFloats.finalize .int32).integerAt k = i := by
    have hi := Number.roundsTo_iff.mpr hnearest
    rcases hvalues k hk hi.isNan_eq_false with ⟨j, hj, hbyte, hinteger⟩ | ⟨negative, hinfinite, -⟩
    · obtain rfl := hj.unique hi
      exact ⟨hbyte, (hinteger hlow hhigh).1⟩
    · exact absurd hinfinite (hi.ne_infinite negative)
  have hinfinite : (threeFloats.floatAt 2).number = .infinite true := by decide +kernel
  obtain ⟨hbyte, hinteger⟩ := hrounded 0 2 (by decide) (by decide +kernel) (by decide) (by decide)
  obtain ⟨hbyte', hinteger'⟩ :=
    hrounded 1 300 (by decide) (by decide +kernel) (by decide) (by decide)
  refine ⟨by omega, by omega, ?_, hinteger, hinteger'⟩
  rcases hvalues 2 (by decide) (by decide +kernel) with ⟨i, hi, -⟩ | ⟨negative, heq, hend⟩
  · exact absurd hinfinite (hi.ne_infinite true)
  · cases heq.symm.trans hinfinite
    exact hend

end StridedArray

end RasterTensor
