import Mathlib.Data.Rat.Floor
import RasterTensor.Proofs.Binary.Rounding

/-!
# The integer below a number

The integer below a number of 32 bits is itself such a number, so what the number has above it is
known up to the last place.
-/

namespace RasterTensor.Binary

variable {q : ℚ}

theorem cast_signed_shiftLeft (s : Bool) (m : ℕ) {e : ℤ} (he : 0 ≤ e) :
    (signed s (m <<< e.toNat) : ℚ) = signed s m * 2 ^ e := by
  have hexact := Number.signed_shiftLeft s m he
  rwa [Int.sub_zero, zpow_zero, mul_one] at hexact

theorem Number.Denotes.floor?_eq {x : Number} (h : x.Denotes q) : x.floor? = some ⌊q⌋ := by
  obtain ⟨s, m, e, rfl, rfl⟩ := h
  simp only [floor?]
  split
  · next hle => rw [← cast_signed_shiftLeft s m hle, Int.floor_intCast]
  · next hlt =>
    have hquotient : (signed s m : ℚ) * (2 : ℚ) ^ e =
        (signed s m : ℚ) / ((1 <<< (-e).toNat : ℕ) : ℚ) := by
      rw [Nat.shiftLeft_eq, Nat.one_mul, Nat.cast_pow, Nat.cast_ofNat, ← zpow_natCast,
        Int.toNat_of_nonneg (by omega), zpow_neg, div_inv_eq_mul]
    rw [hquotient, Rat.floor_intCast_div_natCast]

namespace Binary32

variable {x : Binary32}

theorem denotes_ofInt_floor (hx : x.number.Denotes q) (hq : |q| < 2 ^ (103 : ℤ)) :
    (ofInt ⌊q⌋).number.Denotes ⌊q⌋ := by
  have hint := Number.denotes_ofInt ⌊q⌋
  obtain ⟨s, m, e, hdecode, hvalue⟩ := hx
  have hm : m < 2 ^ 24 := (Format.lt_of_decode (by decide) hdecode).1
  have habs : |q| = m * 2 ^ e := by rw [hvalue, abs_mul, abs_signed, abs_of_pos (by positivity)]
  by_cases he : 0 ≤ e ∧ m ≠ 0
  · -- The number is an integer that needs no more digits than its significand.
    have hfloor : (⌊q⌋ : ℚ) = signed s m * 2 ^ e := by
      rw [hvalue, ← cast_signed_shiftLeft s m he.1, Int.floor_intCast]
    have hplace : e < 103 := by
      have hone : (1 : ℚ) ≤ m := by exact_mod_cast Nat.pos_of_ne_zero he.2
      have hpow : (2 : ℚ) ^ e ≤ |q| := habs ▸ le_mul_of_one_le_left (by positivity) hone
      exact (zpow_lt_zpow_iff_right₀ (by norm_num)).mp (hpow.trans_lt hq)
    have hsigned : |signed s m| < 2 ^ 24 := by
      have hcast : (|signed s m| : ℚ) < 2 ^ 24 := by
        rw [abs_signed]
        exact_mod_cast hm
      exact_mod_cast hcast
    rw [hfloor] at hint ⊢
    exact denotes_ofNumber_exact hint hsigned (by omega) hplace.le
  · have hle : |q| ≤ m := by
      rw [habs]
      by_cases hzero : m = 0
      · simp [hzero]
      · have hneg : e ≤ 0 := by omega
        exact mul_le_of_le_one_right (Nat.cast_nonneg m)
          (zpow_le_one_of_nonpos₀ (by norm_num) hneg)
    have hlow : -(m : ℤ) ≤ ⌊q⌋ := Int.le_floor.mpr (by exact_mod_cast (abs_le.mp hle).1)
    have hhigh : ⌊q⌋ ≤ m := by
      exact_mod_cast (Int.floor_le q).trans (abs_le.mp hle).2
    exact denotes_ofNumber_int hint (abs_lt.mpr ⟨by omega, by omega⟩)

theorem exists_denotes_sub_floor (hx : x.number.Denotes q) (hq : |q| < 2 ^ (103 : ℤ)) :
    ∃ r : ℚ, (x - ofInt ⌊q⌋).number.Denotes r ∧ -(2 ^ 24)⁻¹ ≤ r ∧ r ≤ 1 + (2 ^ 24)⁻¹ := by
  have hexact := hx.sub (denotes_ofInt_floor hx hq)
  have hlow := Int.floor_le q
  have hhigh := Int.lt_floor_add_one q
  have hsize : |q - ⌊q⌋| < 2 ^ (-24 + 24 : ℤ) := by
    rw [neg_add_cancel, zpow_zero, abs_of_nonneg (by linarith)]
    linarith
  obtain ⟨r, hr, herror⟩ := exists_denotes_ofNumber hexact hsize (by norm_num) (by norm_num)
  have hunit : (2 : ℚ) ^ (-24 : ℤ) = (2 ^ 24)⁻¹ := rfl
  rw [hunit] at herror
  obtain ⟨hbelow, habove⟩ := abs_le.mp (le_div_iff₀' (by norm_num) |>.mpr herror)
  exact ⟨r, hr, by linarith, by linarith⟩

end Binary32

end RasterTensor.Binary
