import Mathlib.Order.Interval.Set.Defs
import RasterTensor.Proofs.Tensor.Weights

/-!
# What interpolation keeps

A sample of a resized image is made of samples of its own channel, and it lies between the least
and the greatest sample of that channel. The weights may miss one by a unit, and the sums are cut
off twice, but the last rounding makes up for both.
-/

namespace RasterTensor

namespace Grid

/-- The samples of a channel, as numbers. -/
def channel (p : Grid UInt8) (c : ℕ) : Set ℕ :=
  {n | ∃ y x, y < p.height ∧ x < p.width ∧ (p.get y x c).toNat = n}

/-- A channel of an image and a channel of another of its size hold the same samples. -/
structure SameChannel (p : Grid UInt8) (c : ℕ) (p' : Grid UInt8) (c' : ℕ) : Prop where
  height_eq : p.height = p'.height
  width_eq : p.width = p'.width
  get_eq : ∀ y x, y < p.height → x < p.width → p.get y x c = p'.get y x c'

theorem bounds_of_channel {p : Grid UInt8} {c low high y x : ℕ}
    (h : p.channel c ⊆ Set.Icc low high) (hy : y < p.height) (hx : x < p.width) :
    low ≤ (p.get y x c).toNat ∧ (p.get y x c).toNat ≤ high := h ⟨y, x, hy, hx, rfl⟩

end Grid

namespace Resize

open Grid

variable {source target d : ℕ} {tap : Tap} {p p' : Grid UInt8} {height width y x c c' low high : ℕ}

/-! ## Taps -/

theorem first_columnTap_lt (hsource : 0 < source) : (columnTap source target d).first < source := by
  simp only [columnTap]
  split
  · exact hsource
  · split <;> simp only [] <;> omega

theorem second_columnTap_lt (hsource : 0 < source) :
    (columnTap source target d).second < source := by
  simp only [columnTap]
  omega

theorem first_rowTap_lt (hsource : 0 < source) : (rowTap source target d).first < source := by
  simp only [rowTap]
  omega

theorem second_rowTap_lt (hsource : 0 < source) : (rowTap source target d).second < source := by
  simp only [rowTap]
  omega

/-- Weights that miss one by a unit at most. -/
def Tap.IsBalanced (tap : Tap) : Prop :=
  2047 ≤ tap.firstWeight + tap.secondWeight ∧ tap.firstWeight + tap.secondWeight ≤ 2049

theorem isBalanced_columnTap (hsource : 0 < source) (hsource' : source ≤ 2 ^ 63)
    (htarget : target ≤ 2 ^ 31) (hd : d < target) : (columnTap source target d).IsBalanced := by
  have hposition := isFraction_position hsource hsource' (Nat.zero_lt_of_lt hd) htarget hd
  simp only [columnTap, Tap.IsBalanced]
  apply weights_sum
  split
  · exact isFraction_zero
  · split
    · exact isFraction_zero
    · exact hposition

theorem isBalanced_rowTap (hsource : 0 < source) (hsource' : source ≤ 2 ^ 63)
    (htarget : target ≤ 2 ^ 31) (hd : d < target) : (rowTap source target d).IsBalanced :=
  weights_sum (isFraction_position hsource hsource' (Nat.zero_lt_of_lt hd) htarget hd)

theorem getD_taps (tap : ℕ → ℕ → ℕ → Tap) (hd : d < target) :
    (taps tap source target).getD d default = tap source target d := by
  simp [taps, Array.getD, hd]

/-! ## Samples -/

theorem get_interpolate (p : Grid UInt8) (hp : 0 < p.height) (hy : y < height) (hx : x < width)
    (hc : c < 3) :
    (interpolate p height width).get y x c =
      let row := rowTap p.height height y
      let column := columnTap p.width width x
      between row (across p column row.first c) (across p column row.second c) := by
  rw [interpolate, Grid.get_ofFn _ hy hx hc, getD_taps _ hy]
  dsimp only
  rw [Grid.get_ofFn _ (first_rowTap_lt hp) hx hc, Grid.get_ofFn _ (second_rowTap_lt hp) hx hc,
    getD_taps _ hx]

theorem get_scaled_of_halved (hheight : p.height = 2 * height) (hwidth : p.width = 2 * width)
    (hy : y < height) (hx : x < width) (hc : c < 3) :
    (scaled p height width).get y x c = mean p y x c := by
  rw [scaled, if_pos ⟨hheight, hwidth⟩, Grid.get_ofFn _ hy hx hc]

theorem mean_bounds (h : p.channel c ⊆ Set.Icc low high) (hhigh : high ≤ 255)
    (hheight : p.height = 2 * height) (hwidth : p.width = 2 * width) (hy : y < height)
    (hx : x < width) : low ≤ (mean p y x c).toNat ∧ (mean p y x c).toNat ≤ high := by
  have hsample (dy dx : ℕ) (hdy : dy < 2) (hdx : dx < 2) :=
    bounds_of_channel (y := 2 * y + dy) (x := 2 * x + dx) h (by omega) (by omega)
  have h00 := hsample 0 0 (by decide) (by decide)
  have h01 := hsample 0 1 (by decide) (by decide)
  have h10 := hsample 1 0 (by decide) (by decide)
  have h11 := hsample 1 1 (by decide) (by decide)
  simp only [mean, Nat.shiftRight_eq_div_pow, UInt8.toNat_ofNat']
  omega

theorem across_bounds (h : p.channel c ⊆ Set.Icc low high) (htap : tap.IsBalanced)
    (hfirst : tap.first < p.width) (hsecond : tap.second < p.width) (hy : y < p.height) :
    2047 * low ≤ across p tap y c ∧ across p tap y c ≤ 2049 * high := by
  obtain ⟨hmin, hmax⟩ := htap
  obtain ⟨hlow, hhigh⟩ := bounds_of_channel h hy hfirst
  obtain ⟨hlow', hhigh'⟩ := bounds_of_channel h hy hsecond
  constructor
  · calc 2047 * low ≤ (tap.firstWeight + tap.secondWeight) * low := Nat.mul_le_mul_right low hmin
      _ = low * tap.firstWeight + low * tap.secondWeight := by rw [Nat.mul_comm, Nat.mul_add]
      _ ≤ across p tap y c :=
          Nat.add_le_add (Nat.mul_le_mul_right _ hlow) (Nat.mul_le_mul_right _ hlow')
  · calc across p tap y c ≤ high * tap.firstWeight + high * tap.secondWeight :=
          Nat.add_le_add (Nat.mul_le_mul_right _ hhigh) (Nat.mul_le_mul_right _ hhigh')
      _ = (tap.firstWeight + tap.secondWeight) * high := by rw [← Nat.mul_add, Nat.mul_comm]
      _ ≤ 2049 * high := Nat.mul_le_mul_right high hmax

/-- The sums are cut off after four binary digits, and again after sixteen, so that two binary
digits are left for the last rounding. -/
theorem between_bounds {above below : ℕ} (htap : tap.IsBalanced) (hhigh : high ≤ 255)
    (habove : 2047 * low ≤ above ∧ above ≤ 2049 * high)
    (hbelow : 2047 * low ≤ below ∧ below ≤ 2049 * high) :
    low ≤ (between tap above below).toNat ∧ (between tap above below).toNat ≤ high := by
  obtain ⟨hmin, hmax⟩ := htap
  simp only [between, Nat.shiftRight_eq_div_pow, UInt8.toNat_ofNat']
  have hleast : 2047 * (2047 * low / 16) ≤
      tap.firstWeight * (above / 2 ^ 4) + tap.secondWeight * (below / 2 ^ 4) :=
    calc 2047 * (2047 * low / 16)
        ≤ (tap.firstWeight + tap.secondWeight) * (2047 * low / 16) := Nat.mul_le_mul_right _ hmin
      _ = tap.firstWeight * (2047 * low / 16) + tap.secondWeight * (2047 * low / 16) :=
          Nat.add_mul ..
      _ ≤ _ := Nat.add_le_add (Nat.mul_le_mul_left _ (Nat.div_le_div_right habove.1))
          (Nat.mul_le_mul_left _ (Nat.div_le_div_right hbelow.1))
  have hgreatest : tap.firstWeight * (above / 2 ^ 4) + tap.secondWeight * (below / 2 ^ 4) ≤
      2049 * (2049 * high / 16) :=
    calc _ ≤ tap.firstWeight * (2049 * high / 16) + tap.secondWeight * (2049 * high / 16) :=
          Nat.add_le_add (Nat.mul_le_mul_left _ (Nat.div_le_div_right habove.2))
            (Nat.mul_le_mul_left _ (Nat.div_le_div_right hbelow.2))
      _ = (tap.firstWeight + tap.secondWeight) * (2049 * high / 16) := (Nat.add_mul ..).symm
      _ ≤ 2049 * (2049 * high / 16) := Nat.mul_le_mul_right _ hmax
  generalize tap.firstWeight * (above / 2 ^ 4) = upper at hleast hgreatest ⊢
  generalize tap.secondWeight * (below / 2 ^ 4) = lower at hleast hgreatest ⊢
  have hcut : 128 * low ≤ 2047 * low / 16 + 16 := by omega
  have hresult : low ≤ (upper / 2 ^ 16 + lower / 2 ^ 16 + 2) / 2 ^ 2 ∧
      (upper / 2 ^ 16 + lower / 2 ^ 16 + 2) / 2 ^ 2 ≤ high := by
    constructor <;> omega
  rwa [Nat.mod_eq_of_lt (by omega)]

theorem channel_scaled_subset (h : p.channel c ⊆ Set.Icc low high) (hc : c < 3)
    (hhigh : high ≤ 255) (hheight : 0 < p.height) (hwidth : 0 < p.width)
    (hheight' : p.height ≤ 2 ^ 63) (hwidth' : p.width ≤ 2 ^ 63) (htarget : height ≤ 2 ^ 31)
    (htarget' : width ≤ 2 ^ 31) : (scaled p height width).channel c ⊆ Set.Icc low high := by
  rintro _ ⟨y, x, hy, hx, rfl⟩
  rw [height_scaled] at hy
  rw [width_scaled] at hx
  by_cases hhalved : p.height = 2 * height ∧ p.width = 2 * width
  · rw [get_scaled_of_halved hhalved.1 hhalved.2 hy hx hc]
    exact mean_bounds h hhigh hhalved.1 hhalved.2 hy hx
  · have hcolumn := isBalanced_columnTap hwidth hwidth' htarget' hx
    have hacross (y : ℕ) (hy : y < p.height) := across_bounds h hcolumn
      (first_columnTap_lt hwidth) (second_columnTap_lt hwidth) hy
    rw [scaled, if_neg hhalved, get_interpolate p hheight hy hx hc]
    exact between_bounds (isBalanced_rowTap hheight hheight' htarget hy) hhigh
      (hacross _ (first_rowTap_lt hheight)) (hacross _ (second_rowTap_lt hheight))

theorem sameChannel_scaled (h : SameChannel p c p' c') (hc : c < 3) (hc' : c' < 3)
    (hheight : 0 < p.height) (hwidth : 0 < p.width) (height width : ℕ) :
    SameChannel (scaled p height width) c (scaled p' height width) c' := by
  refine ⟨by simp, by simp, ?_⟩
  intro y x hy hx
  rw [height_scaled] at hy
  rw [width_scaled] at hx
  by_cases hhalved : p.height = 2 * height ∧ p.width = 2 * width
  · have hsample (dy dx : ℕ) (hdy : dy < 2) (hdx : dx < 2) :=
      h.get_eq (2 * y + dy) (2 * x + dx) (by omega) (by omega)
    rw [get_scaled_of_halved hhalved.1 hhalved.2 hy hx hc,
      get_scaled_of_halved (h.height_eq ▸ hhalved.1) (h.width_eq ▸ hhalved.2) hy hx hc']
    simp only [mean, hsample 0 0 (by decide) (by decide), hsample 0 1 (by decide) (by decide),
      hsample 1 0 (by decide) (by decide), hsample 1 1 (by decide) (by decide)]
  · have hhalved' : ¬(p'.height = 2 * height ∧ p'.width = 2 * width) := by
      rwa [← h.height_eq, ← h.width_eq]
    have hacross (y : ℕ) (hy : y < p.height) : across p (columnTap p.width width x) y c =
        across p' (columnTap p.width width x) y c' := by
      rw [across, across, h.get_eq y _ hy (first_columnTap_lt hwidth),
        h.get_eq y _ hy (second_columnTap_lt hwidth)]
    rw [scaled, if_neg hhalved, scaled, if_neg hhalved',
      get_interpolate p hheight hy hx hc, get_interpolate p' (h.height_eq ▸ hheight) hy hx hc']
    simp only [← h.height_eq, ← h.width_eq, hacross _ (first_rowTap_lt hheight),
      hacross _ (second_rowTap_lt hheight)]

end Resize

end RasterTensor
