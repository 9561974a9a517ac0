import RasterTensor.Proofs.Binary.Floors
import RasterTensor.Proofs.Binary.Intervals
import RasterTensor.Proofs.Binary.Nearest
import RasterTensor.Tensor.Resize

/-!
# Weights

The two weights of a tap are rounded on their own, so they need not make one together. They miss it
by a unit at most, whatever the sizes are.
-/

namespace RasterTensor.Resize

open Binary

variable {source target d : ℕ} {f : Binary32}

/-- The length of a source coordinate for each target coordinate. -/
theorem lies_scale (hsource : 0 < source) (hsource' : source ≤ 2 ^ 63) (htarget : 0 < target)
    (htarget' : target ≤ 2 ^ 31) :
    (Binary64.ofInt 1 / (Binary64.ofNat target / Binary64.ofNat source)).Lies (1 / 2 ^ 40)
      (2 ^ 66) := by
  have hone : (Binary64.ofInt 1).Lies 1 1 :=
    ⟨1, by exact_mod_cast Binary64.denotes_ofInt (i := 1) (by norm_num), le_rfl, le_rfl⟩
  have hratio := (Binary64.lies_ofNat htarget htarget' (by norm_num)).div
    (Binary64.lies_ofNat hsource hsource' (by norm_num)) (by norm_num) (by norm_num) (by norm_num)
    (by norm_num)
  have hscale := hone.div hratio (by norm_num) (by norm_num) (by norm_num) (by norm_num)
  exact hscale.imp (by norm_num) (by norm_num)

theorem lies_centre (htarget' : target ≤ 2 ^ 31) (hd : d < target) :
    (Binary64.ofNat d + .half).Lies (1 / 4) (2 ^ 32) := by
  have hlt : (d : ℤ) < 2 ^ 31 := by exact_mod_cast hd.trans_le htarget'
  have hcoordinate : (Binary64.ofNat d).Lies 0 (2 ^ 31) := by
    refine ⟨d, ?_, Nat.cast_nonneg d, by exact_mod_cast hlt.le⟩
    exact_mod_cast Binary64.denotes_ofInt (i := d) (abs_lt.mpr ⟨by omega, by omega⟩)
  have hcentre := hcoordinate.add ⟨_, Binary64.denotes_half, le_rfl, le_rfl⟩ (by norm_num)
    (by norm_num)
  exact hcentre.imp (by norm_num) (by norm_num)

/-- The place of a target coordinate on the source axis is a number, and not too great a one. -/
theorem exists_denotes_place (hsource : 0 < source) (hsource' : source ≤ 2 ^ 63)
    (htarget : 0 < target) (htarget' : target ≤ 2 ^ 31) (hd : d < target) :
    ∃ q : ℚ, (Binary32.ofBinary64 ((Binary64.ofNat d + .half) *
        (Binary64.ofInt 1 / (Binary64.ofNat target / Binary64.ofNat source)) -
          .half)).number.Denotes q ∧ |q| < 2 ^ (103 : ℤ) := by
  obtain ⟨scaled, hscaled, hlow, hhigh⟩ := (lies_centre htarget' hd).mul
    (lies_scale hsource hsource' htarget htarget') (by norm_num) (by norm_num) (by norm_num)
    (by norm_num)
  norm_num at hlow hhigh
  have hsize : |scaled - 1 / 2| < 2 ^ (47 + 53 : ℤ) :=
    abs_lt.mpr ⟨by norm_num; linarith, by norm_num; linarith⟩
  obtain ⟨moved, hmoved, herror⟩ := Binary64.exists_denotes_ofNumber
    (hscaled.sub Binary64.denotes_half) hsize (by norm_num) (by norm_num)
  have hsize' : |moved| < 2 ^ (77 + 24 : ℤ) := abs_lt_of_error hsize (by norm_num) herror
  obtain ⟨q, hq, herror'⟩ :=
    Binary32.exists_denotes_ofNumber hmoved hsize' (by norm_num) (by norm_num)
  have hsize'' : |q| < 2 ^ (77 + 24 + 1 : ℤ) := abs_lt_of_error hsize' (by norm_num) herror'
  exact ⟨q, hq, hsize''.trans (by norm_num)⟩

/-- A number that a fraction can be: what rounding makes of a number between zero and one. -/
def IsFraction (f : Binary32) : Prop :=
  ∃ q : ℚ, f.number.Denotes q ∧ -(2 ^ 24)⁻¹ ≤ q ∧ q ≤ 1 + (2 ^ 24)⁻¹

theorem isFraction_zero : IsFraction (.ofInt 0) :=
  ⟨0, by exact_mod_cast Binary32.denotes_ofNumber_int (Number.denotes_ofInt 0) (by norm_num),
    by norm_num, by norm_num⟩

theorem isFraction_position (hsource : 0 < source) (hsource' : source ≤ 2 ^ 63)
    (htarget : 0 < target) (htarget' : target ≤ 2 ^ 31) (hd : d < target) :
    IsFraction (position source target d).2 := by
  obtain ⟨q, hq, hlt⟩ := exists_denotes_place hsource hsource' htarget htarget' hd
  have hfraction := Binary32.exists_denotes_sub_floor hq hlt
  simp only [position, hq.floor?_eq, Option.getD_some]
  exact hfraction

theorem abs_weight_sub_le {q : ℚ} (hf : f.number.Denotes q) (hlow : -(2 ^ 23)⁻¹ ≤ q)
    (hhigh : q ≤ 1 + (2 ^ 23)⁻¹) : |(weight f : ℚ) - 2048 * q| ≤ 1 / 2 + (2 ^ 13)⁻¹ := by
  have hunit : (Binary32.ofNat unit).number.Denotes (2048 : ℤ) :=
    Binary32.denotes_ofNumber_int (Number.denotes_ofNat unit) (by norm_num)
  norm_num at hlow hhigh
  have hsize : |q * (2048 : ℤ)| < 2 ^ (-12 + 24 : ℤ) :=
    abs_lt.mpr ⟨by norm_num; linarith, by norm_num; linarith⟩
  obtain ⟨scaled, hscaled, herror⟩ :=
    Binary32.exists_denotes_ofNumber (hf.mul hunit) hsize (by norm_num) (by norm_num)
  obtain ⟨i, hnearest, hi⟩ := hscaled.exists_nearest
  have hrounded := hi.two_mul_abs_sub_le
  have hclose : |(i : ℚ) - 2048 * q| ≤ 1 / 2 + (2 ^ 13)⁻¹ := by
    have htriangle := abs_sub_le (i : ℚ) scaled (2048 * q)
    rw [abs_sub_comm] at hrounded
    rw [Int.cast_ofNat, mul_comm q] at herror
    norm_num at herror ⊢
    linarith
  have hnonneg : 0 ≤ i := by
    have hbelow := (abs_le.mp hclose).1
    have hlt : (-1 : ℚ) < i := by
      norm_num at hbelow
      linarith
    have hcast : -1 < i := by exact_mod_cast hlt
    omega
  have hweight : (weight f : ℤ) = i := by
    have hnumber : (f * .ofNat unit).number.nearest? = some i := hnearest
    rw [weight, hnumber, Option.getD_some, Int.toNat_of_nonneg hnonneg]
  have hcast : (weight f : ℚ) = i := by exact_mod_cast hweight
  rwa [hcast]

/-- Both weights of a fraction are rounded, and what one is taken from is rounded as well. Together
that comes to less than two units. -/
theorem weights_sum (hf : IsFraction f) :
    2047 ≤ (weights f).1 + (weights f).2 ∧ (weights f).1 + (weights f).2 ≤ 2049 := by
  obtain ⟨q, hq, hlow, hhigh⟩ := hf
  have hone : (Binary32.ofInt 1).number.Denotes (1 : ℤ) :=
    Binary32.denotes_ofNumber_int (Number.denotes_ofInt 1) (by norm_num)
  have hsize : |(1 : ℤ) - q| < 2 ^ (-23 + 24 : ℤ) := by
    norm_num at hlow hhigh ⊢
    exact abs_lt.mpr ⟨by linarith, by linarith⟩
  obtain ⟨r, hr, herror⟩ :=
    Binary32.exists_denotes_ofNumber (hone.sub hq) hsize (by norm_num) (by norm_num)
  norm_num at herror hlow hhigh
  obtain ⟨hbelow, habove⟩ := abs_le.mp (le_div_iff₀' (by norm_num) |>.mpr herror)
  have hrest : |(weight (.ofInt 1 - f) : ℚ) - 2048 * r| ≤ 1 / 2 + (2 ^ 13)⁻¹ :=
    abs_weight_sub_le hr (by norm_num; linarith) (by norm_num; linarith)
  have hown := abs_weight_sub_le hq (by norm_num; linarith) (by norm_num; linarith)
  norm_num at hrest hown
  obtain ⟨hrest, hrest'⟩ := abs_le.mp hrest
  obtain ⟨hown, hown'⟩ := abs_le.mp hown
  have hmore : (2046 : ℚ) < ((weights f).1 + (weights f).2 : ℕ) := by
    push_cast
    simp only [weights]
    linarith
  have hless : (((weights f).1 + (weights f).2 : ℕ) : ℚ) < 2050 := by
    push_cast
    simp only [weights]
    linarith
  have hmore' : 2046 < (weights f).1 + (weights f).2 := by exact_mod_cast hmore
  have hless' : (weights f).1 + (weights f).2 < 2050 := by exact_mod_cast hless
  omega

end RasterTensor.Resize
