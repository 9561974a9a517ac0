import Mathlib.Algebra.Ring.Int.Parity
import RasterTensor.Proofs.Binary.Value

/-!
# The nearest integer

Rounding gives an integer to which no other is nearer, and of two that are equally near the even
one. There is only one such integer, and it does not decrease when the number grows.
-/

namespace RasterTensor.Binary

variable {q r : ℚ} {i j : ℤ} {x y : Number}

/-- No integer is nearer, and an integer that has an equal is even. -/
structure IsNearest (q : ℚ) (i : ℤ) : Prop where
  le : ∀ j : ℤ, |q - i| ≤ |q - j|
  even : ∀ j : ℤ, j ≠ i → |q - j| = |q - i| → Even i

/-- Another integer is at least as far as what is left of one. -/
theorem one_le_abs_sub_add_abs_sub (hne : j ≠ i) : 1 ≤ |q - i| + |q - j| := by
  have hgap : (1 : ℚ) ≤ |(i : ℚ) - j| := by
    exact_mod_cast Int.one_le_abs (sub_ne_zero.mpr hne.symm)
  have htriangle := abs_sub_le (i : ℚ) q j
  rw [abs_sub_comm (i : ℚ) q] at htriangle
  exact hgap.trans htriangle

theorem isNearest_of_error (hle : 2 * |q - i| ≤ 1) (heven : 2 * |q - i| = 1 → Even i) :
    IsNearest q i := by
  constructor
  · intro j
    by_cases hne : j = i
    · rw [hne]
    · have hfar := one_le_abs_sub_add_abs_sub (q := q) hne
      linarith
  · intro j hne heq
    have hfar := one_le_abs_sub_add_abs_sub (q := q) hne
    rw [heq] at hfar
    apply heven
    linarith

namespace IsNearest

theorem two_mul_abs_sub_le (h : IsNearest q i) : 2 * |q - i| ≤ 1 := by
  rcases le_total (i : ℚ) q with hle | hle
  · have hnext := h.le (i + 1)
    rw [abs_of_nonneg (sub_nonneg.mpr hle)] at hnext ⊢
    by_contra hlt
    have habs : |q - (i + 1 : ℤ)| < q - i := by
      push_cast
      rw [abs_lt]
      constructor <;> linarith
    linarith
  · have hprevious := h.le (i - 1)
    rw [abs_of_nonpos (sub_nonpos.mpr hle)] at hprevious ⊢
    by_contra hlt
    have habs : |q - (i - 1 : ℤ)| < -(q - i) := by
      push_cast
      rw [abs_lt]
      constructor <;> linarith
    linarith

theorem even_of_tie (h : IsNearest q i) (hne : j ≠ i) (htie : |q - j| ≤ |q - i|) : Even i :=
  h.even j hne (le_antisymm htie (h.le j))

/-- Only integers that lie on either side of a tie could be out of order, and these are not both
even. -/
theorem mono (hq : IsNearest q i) (hr : IsNearest r j) (hle : q ≤ r) : i ≤ j := by
  by_contra hlt
  have hnext : (j : ℚ) + 1 ≤ i := by exact_mod_cast Int.add_one_le_of_lt (not_le.mp hlt)
  have hqi := (abs_le.mp (le_div_iff₀' (by norm_num) |>.mpr hq.two_mul_abs_sub_le)).1
  have hrj := (abs_le.mp (le_div_iff₀' (by norm_num) |>.mpr hr.two_mul_abs_sub_le)).2
  have heq : i = j + 1 := by
    have hcast : (i : ℚ) = j + 1 := by linarith
    exact_mod_cast hcast
  have hcast : (i : ℚ) = j + 1 := by exact_mod_cast heq
  have hi : q - i = -(1 / 2) := by linarith
  have hj : q - j = 1 / 2 := by linarith
  have hsame : r = q := by linarith
  have hne : j ≠ i := by omega
  have hieven : Even i := hq.even_of_tie hne (by rw [hi, hj, abs_neg])
  have hjeven : Even j := hr.even_of_tie hne.symm (by rw [hsame, hi, hj, abs_neg])
  rw [heq, Int.even_add_one] at hieven
  exact hieven hjeven

theorem unique (hi : IsNearest q i) (hj : IsNearest q j) : i = j :=
  le_antisymm (hi.mono hj le_rfl) (hj.mono hi le_rfl)

end IsNearest

/-! ## Rounding -/

theorem even_shiftNearest {m k : ℕ} (h : 2 * |(shiftNearest m k : ℚ) * 2 ^ k - m| = 2 ^ k) :
    Even (shiftNearest m k) := by
  obtain ⟨quotient, remainder, hcast, hlt, hresult⟩ := shiftNearest_eq m k
  rw [hresult, hcast] at h
  rw [hresult]
  split at h
  · next hup =>
    rw [Nat.cast_add, Nat.cast_one, add_mul, one_mul, add_sub_add_left_eq_sub,
      abs_of_pos (by linarith)] at h
    have htie : 2 * remainder = 2 ^ k := by
      have hvalue : 2 * (remainder : ℚ) = 2 ^ k := by linarith
      exact_mod_cast hvalue
    rw [if_pos hup, Nat.even_iff]
    omega
  · next hdown =>
    rw [sub_add_cancel_left, abs_neg, abs_of_nonneg (Nat.cast_nonneg _)] at h
    have htie : 2 * remainder = 2 ^ k := by exact_mod_cast h
    rw [if_neg hdown, Nat.even_iff]
    omega

theorem even_inUnits {m : ℕ} {e : ℤ} (h : 2 * |(inUnits m e 0 : ℚ) - m * 2 ^ e| = 1) :
    Even (inUnits m e 0) := by
  unfold inUnits at h ⊢
  split at h
  · next hle =>
    have hexact := Number.signed_shiftLeft false m hle
    simp only [signed, Bool.false_eq_true, if_false, Int.cast_natCast, zpow_zero, mul_one] at hexact
    rw [hexact, sub_self, abs_zero, mul_zero] at h
    exact absurd h zero_ne_one
  · next hlt =>
    rw [if_neg hlt]
    have hunit : (2 : ℚ) ^ e * 2 ^ (0 - e).toNat = 1 := by
      rw [← zpow_natCast, Int.toNat_of_nonneg (by omega), ← zpow_add₀ (by norm_num),
        add_sub_cancel, zpow_zero]
    have hpos : (0 : ℚ) < 2 ^ (0 - e).toNat := by positivity
    apply even_shiftNearest
    generalize shiftNearest m (0 - e).toNat = rounded at h
    calc 2 * |(rounded : ℚ) * 2 ^ (0 - e).toNat - m|
        = 2 * |((rounded : ℚ) - m * 2 ^ e) * 2 ^ (0 - e).toNat| := by
          rw [sub_mul, mul_assoc, hunit, mul_one]
      _ = 2 ^ (0 - e).toNat := by rw [abs_mul, abs_of_pos hpos, ← mul_assoc, h, one_mul]

namespace Number

theorem Denotes.exists_nearest (h : x.Denotes q) : ∃ i, x.nearest? = some i ∧ IsNearest q i := by
  obtain ⟨s, m, e, rfl, rfl⟩ := h
  have hnearest : (finite s m e).nearest? = some (signed s (inUnits m e 0)) := by
    simp [nearest?, inUnits]
  have herror := two_mul_abs_signed_inUnits_sub_le s m e 0
  have hvalue : |(signed s (inUnits m e 0) : ℚ) - signed s m * 2 ^ e| =
      |(inUnits m e 0 : ℚ) - m * 2 ^ e| := by
    rw [cast_signed, cast_signed, mul_assoc, ← mul_sub, abs_mul]
    cases s <;> simp
  rw [zpow_zero, mul_one] at herror
  refine ⟨_, hnearest, isNearest_of_error ?_ ?_⟩
  · rwa [abs_sub_comm]
  · intro htie
    rw [abs_sub_comm, hvalue] at htie
    have heven := (Int.even_coe_nat _).mpr (even_inUnits htie)
    cases s with
    | false => exact heven
    | true => exact heven.neg

/-- The integer is the nearest one to the value of the number. -/
def RoundsTo (x : Number) (i : ℤ) : Prop := ∃ q, x.Denotes q ∧ IsNearest q i

theorem roundsTo_iff : x.RoundsTo i ↔ x.nearest? = some i := by
  constructor
  · rintro ⟨q, hq, hi⟩
    obtain ⟨j, hnearest, hj⟩ := hq.exists_nearest
    rw [hnearest, hj.unique hi]
  · intro h
    cases x with
    | nan => cases h
    | infinite s => cases h
    | finite s m e =>
        obtain ⟨j, hnearest, hj⟩ := (denotes_finite s m e).exists_nearest
        cases hnearest.symm.trans h
        exact ⟨_, denotes_finite s m e, hj⟩

theorem RoundsTo.unique (hi : x.RoundsTo i) (hj : x.RoundsTo j) : i = j :=
  Option.some.inj ((roundsTo_iff.mp hi).symm.trans (roundsTo_iff.mp hj))

theorem exists_roundsTo_or_infinite (h : x.isNan = false) :
    (∃ i, x.RoundsTo i) ∨ ∃ negative, x = .infinite negative := by
  cases x with
  | nan => cases h
  | infinite negative => exact .inr ⟨negative, rfl⟩
  | finite s m e =>
      obtain ⟨i, -, hi⟩ := (denotes_finite s m e).exists_nearest
      exact .inl ⟨i, _, denotes_finite s m e, hi⟩

/-- The order of numbers by their values, with the infinities at its ends. -/
inductive AtMost : Number → Number → Prop
  | finite {x y : Number} {q r : ℚ} (hx : x.Denotes q) (hy : y.Denotes r) (hle : q ≤ r) :
      AtMost x y
  | least {y : Number} (hy : y.isNan = false) : AtMost (.infinite true) y
  | greatest {x : Number} (hx : x.isNan = false) : AtMost x (.infinite false)

theorem RoundsTo.ne_infinite (h : x.RoundsTo i) (negative : Bool) : x ≠ .infinite negative := by
  rintro rfl
  cases roundsTo_iff.mp h

theorem RoundsTo.isNan_eq_false (h : x.RoundsTo i) : x.isNan = false := by
  obtain ⟨q, ⟨s, m, e, rfl, -⟩, -⟩ := h
  rfl

theorem RoundsTo.mono (hi : x.RoundsTo i) (hj : y.RoundsTo j) (h : x.AtMost y) : i ≤ j := by
  cases h with
  | least => exact absurd rfl (hi.ne_infinite true)
  | greatest => exact absurd rfl (hj.ne_infinite false)
  | finite hx hy hle =>
      obtain ⟨q, hq, hqi⟩ := hi
      obtain ⟨r, hr, hrj⟩ := hj
      rw [hx.unique hq, hy.unique hr] at hle
      exact hqi.mono hrj hle

end Number

end RasterTensor.Binary
