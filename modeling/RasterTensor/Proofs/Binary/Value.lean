import Mathlib.Algebra.Order.Field.Power
import Mathlib.Algebra.Order.Field.Rat
import Mathlib.Tactic.Linarith
import Mathlib.Tactic.NormNum
import Mathlib.Tactic.Positivity
import Mathlib.Tactic.Ring
import RasterTensor.Binary.Number

/-!
# The values of numbers

A finite number denotes a rational. Sums, differences and products denote those of the rationals,
and a number that denotes an integer has it as its nearest one.
-/

namespace RasterTensor.Binary

variable {x y : Number} {q r : ℚ}

theorem cast_signed (s : Bool) (m : ℕ) :
    (signed s m : ℚ) = (if s then -1 else 1) * (m : ℚ) := by
  cases s <;> simp [signed]

theorem abs_signed (s : Bool) (m : ℕ) : |(signed s m : ℚ)| = m := by
  cases s <;> simp [signed]

theorem signed_mul (s t : Bool) (m n : ℕ) : signed s m * signed t n = signed (s ^^ t) (m * n) := by
  cases s <;> cases t <;> simp [signed]

theorem signed_natAbs (i : ℤ) (s : Bool) (hs : i ≠ 0 → s = decide (i < 0)) :
    signed s i.natAbs = i := by
  by_cases hi : i = 0
  · simp [hi]
  · rw [hs hi]
    by_cases hneg : i < 0
    · simp only [signed, hneg, decide_true, if_true]
      omega
    · simp only [signed, hneg, decide_false, Bool.false_eq_true, if_false]
      omega

namespace Number

/-- A finite number and the rational that it stands for. -/
def Denotes (x : Number) (q : ℚ) : Prop :=
  ∃ s m e, x = .finite s m e ∧ q = signed s m * (2 : ℚ) ^ e

theorem denotes_finite (s : Bool) (m : ℕ) (e : ℤ) :
    (finite s m e).Denotes (signed s m * (2 : ℚ) ^ e) :=
  ⟨s, m, e, rfl, rfl⟩

theorem Denotes.unique (hq : x.Denotes q) (hr : x.Denotes r) : q = r := by
  obtain ⟨s, m, e, rfl, rfl⟩ := hq
  obtain ⟨s', m', e', heq, rfl⟩ := hr
  cases heq
  rfl

theorem denotes_ofNat (n : ℕ) : (ofNat n).Denotes n :=
  ⟨false, n, 0, rfl, by simp [signed]⟩

theorem denotes_ofInt (i : ℤ) : (ofInt i).Denotes i := by
  refine ⟨decide (i < 0), i.natAbs, 0, rfl, ?_⟩
  rw [signed_natAbs i _ fun _ => rfl]
  simp

theorem Denotes.neg (h : x.Denotes q) : x.neg.Denotes (-q) := by
  obtain ⟨s, m, e, rfl, rfl⟩ := h
  refine ⟨!s, m, e, rfl, ?_⟩
  cases s <;> simp [signed]

theorem signed_shiftLeft (s : Bool) (m : ℕ) {e g : ℤ} (h : g ≤ e) :
    (signed s (m <<< (e - g).toNat) : ℚ) * (2 : ℚ) ^ g = signed s m * (2 : ℚ) ^ e := by
  have hshift : ((m <<< (e - g).toNat : ℕ) : ℚ) = m * (2 : ℚ) ^ (e - g) := by
    rw [Nat.shiftLeft_eq, Nat.cast_mul, Nat.cast_pow, Nat.cast_ofNat, ← zpow_natCast,
      Int.toNat_of_nonneg (by omega)]
  rw [cast_signed, cast_signed, hshift, mul_assoc, mul_assoc, ← zpow_add₀ (by norm_num),
    Int.sub_add_cancel, mul_assoc]

theorem Denotes.add (hx : x.Denotes q) (hy : y.Denotes r) : (x.add y).Denotes (q + r) := by
  obtain ⟨s, m, e, rfl, rfl⟩ := hx
  obtain ⟨t, n, f, rfl, rfl⟩ := hy
  have hleft := signed_shiftLeft s m (Int.min_le_left e f)
  have hright := signed_shiftLeft t n (Int.min_le_right e f)
  refine ⟨_, _, _, rfl, ?_⟩
  rw [signed_natAbs _ _ fun hne => by simp [hne], Int.cast_add, add_mul, hleft, hright]

theorem Denotes.sub (hx : x.Denotes q) (hy : y.Denotes r) : (x.sub y).Denotes (q - r) := by
  rw [sub_eq_add_neg]
  exact hx.add hy.neg

theorem Denotes.mul (hx : x.Denotes q) (hy : y.Denotes r) : (x.mul y).Denotes (q * r) := by
  obtain ⟨s, m, e, rfl, rfl⟩ := hx
  obtain ⟨t, n, f, rfl, rfl⟩ := hy
  refine ⟨s ^^ t, m * n, e + f, rfl, ?_⟩
  rw [← signed_mul, Int.cast_mul, zpow_add₀ (by norm_num)]
  ring

theorem denotes_mul_iff :
    (x.mul y).Denotes q ↔ ∃ a b, x.Denotes a ∧ y.Denotes b ∧ q = a * b := by
  constructor
  · intro h
    cases x with
    | finite s m e =>
        cases y with
        | finite t n g =>
            have hx := denotes_finite s m e
            have hy := denotes_finite t n g
            exact ⟨_, _, hx, hy, h.unique (hx.mul hy)⟩
        | infinite t =>
            obtain ⟨_, _, _, heq, -⟩ := h
            simp only [mul] at heq
            split at heq <;> cases heq
        | nan => nomatch h
    | infinite s =>
        cases y with
        | finite t n g =>
            obtain ⟨_, _, _, heq, -⟩ := h
            simp only [mul] at heq
            split at heq <;> cases heq
        | _ => nomatch h
    | nan => nomatch h
  · rintro ⟨a, b, ha, hb, rfl⟩
    exact ha.mul hb

/-- What is not finite cannot be taken away from anything. -/
theorem exists_denotes_of_sub (h : (x.sub y).Denotes q) : ∃ r, y.Denotes r := by
  obtain ⟨s, m, e, heq, -⟩ := h
  cases y with
  | finite t n g => exact ⟨_, denotes_finite t n g⟩
  | infinite t =>
      cases x with
      | infinite u =>
          simp only [sub, neg, add] at heq
          split at heq <;> cases heq
      | _ => cases heq
  | nan => cases x <;> cases heq

theorem isFinite_iff : x.isFinite = true ↔ ∃ q, x.Denotes q := by
  constructor
  · intro h
    cases x with
    | finite s m e => exact ⟨_, denotes_finite s m e⟩
    | _ => cases h
  · rintro ⟨_, s, m, e, rfl, -⟩
    rfl

/-! ### Zero -/

theorem isZero_finite (s : Bool) (m : ℕ) (e : ℤ) : (finite s m e).isZero = true ↔ m = 0 := by
  cases m with
  | zero => simp [isZero]
  | succ m => simp [isZero]

theorem isZero_iff : x.isZero = true ↔ x.Denotes 0 := by
  constructor
  · intro h
    cases x with
    | finite s m e =>
        obtain rfl := (isZero_finite s m e).mp h
        exact ⟨s, 0, e, rfl, by simp⟩
    | _ => cases h
  · rintro ⟨s, m, e, rfl, hzero⟩
    have hpos : (0 : ℚ) < 2 ^ e := by positivity
    have hsigned := (mul_eq_zero.mp hzero.symm).resolve_right hpos.ne'
    rw [← abs_eq_zero, abs_signed] at hsigned
    exact (isZero_finite s m e).mpr (by exact_mod_cast hsigned)

theorem Denotes.isZero_eq_false_iff (h : x.Denotes q) : x.isZero = false ↔ q ≠ 0 := by
  rw [← Bool.not_eq_true, isZero_iff, not_iff_not]
  constructor
  · intro hzero
    exact h.unique hzero
  · rintro rfl
    exact h

end Number

/-! ## The nearest multiple of a power of two -/

/-- Rounding goes up from the quotient when the remainder is more than half a unit, and when it is
half a unit and the quotient is odd. -/
theorem shiftNearest_eq (m k : ℕ) : ∃ quotient remainder : ℕ,
    (m : ℚ) = quotient * 2 ^ k + remainder ∧ (remainder : ℚ) < 2 ^ k ∧
      shiftNearest m k =
        if 2 * remainder > 2 ^ k ∨ (2 * remainder = 2 ^ k ∧ quotient % 2 = 1) then quotient + 1
        else quotient := by
  have hdivision : m / 2 ^ k * 2 ^ k + m % 2 ^ k = m := Nat.div_add_mod' m (2 ^ k)
  have hlt : m % 2 ^ k < 2 ^ k := Nat.mod_lt m (Nat.two_pow_pos k)
  have hremainder : m - m / 2 ^ k * 2 ^ k = m % 2 ^ k := by omega
  refine ⟨m / 2 ^ k, m % 2 ^ k, by exact_mod_cast hdivision.symm, by exact_mod_cast hlt, ?_⟩
  simp only [shiftNearest, Nat.shiftRight_eq_div_pow, Nat.shiftLeft_eq, Nat.one_mul, hremainder]

theorem two_mul_abs_shiftNearest_sub_le (m k : ℕ) :
    2 * |(shiftNearest m k : ℚ) * 2 ^ k - m| ≤ 2 ^ k := by
  obtain ⟨quotient, remainder, hcast, hlt, hresult⟩ := shiftNearest_eq m k
  rw [hresult, hcast]
  split
  · next hup =>
    have hhalf : (2 : ℚ) ^ k ≤ 2 * remainder := by
      have hnat : 2 ^ k ≤ 2 * remainder := by omega
      exact_mod_cast hnat
    rw [Nat.cast_add, Nat.cast_one, add_mul, one_mul, add_sub_add_left_eq_sub,
      abs_of_pos (by linarith)]
    linarith
  · next hdown =>
    have hhalf : 2 * (remainder : ℚ) ≤ 2 ^ k := by
      have hnat : 2 * remainder ≤ 2 ^ k := by omega
      exact_mod_cast hnat
    rw [sub_add_cancel_left, abs_neg, abs_of_nonneg (Nat.cast_nonneg _)]
    exact hhalf

/-- `m * 2 ^ e` in units of a power of two, to the nearest one. -/
def inUnits (m : ℕ) (e unit : ℤ) : ℕ :=
  if unit ≤ e then m <<< (e - unit).toNat else shiftNearest m (unit - e).toNat

theorem two_mul_abs_inUnits_sub_le (m : ℕ) (e unit : ℤ) :
    2 * |(inUnits m e unit : ℚ) * 2 ^ unit - m * 2 ^ e| ≤ 2 ^ unit := by
  unfold inUnits
  split
  · next hle =>
    have hexact := Number.signed_shiftLeft false m hle
    simp only [signed, Bool.false_eq_true, if_false, Int.cast_natCast] at hexact
    rw [hexact, sub_self, abs_zero, mul_zero]
    positivity
  · next hlt =>
    have hpow : (2 : ℚ) ^ unit = 2 ^ (unit - e).toNat * 2 ^ e := by
      rw [← zpow_natCast, Int.toNat_of_nonneg (by omega), ← zpow_add₀ (by norm_num),
        Int.sub_add_cancel]
    have hpos : (0 : ℚ) < 2 ^ e := by positivity
    rw [hpow, ← mul_assoc, ← sub_mul, abs_mul, abs_of_pos hpos, ← mul_assoc]
    exact mul_le_mul_of_nonneg_right (two_mul_abs_shiftNearest_sub_le _ _) hpos.le

theorem inUnits_le {m n : ℕ} {e unit : ℤ} (h : (m : ℚ) * 2 ^ e ≤ n * 2 ^ unit) :
    inUnits m e unit ≤ n := by
  have herror := two_mul_abs_inUnits_sub_le m e unit
  have habove := le_abs_self ((inUnits m e unit : ℚ) * 2 ^ unit - m * 2 ^ e)
  have hpos : (0 : ℚ) < 2 ^ unit := by positivity
  by_contra hlt
  have hnext : ((n : ℚ) + 1) * 2 ^ unit ≤ inUnits m e unit * 2 ^ unit :=
    mul_le_mul_of_nonneg_right (by exact_mod_cast Nat.lt_of_not_le hlt) hpos.le
  linarith

theorem le_inUnits {m n : ℕ} {e unit : ℤ} (h : (n : ℚ) * 2 ^ unit ≤ m * 2 ^ e) :
    n ≤ inUnits m e unit := by
  have herror := two_mul_abs_inUnits_sub_le m e unit
  have hbelow := neg_abs_le ((inUnits m e unit : ℚ) * 2 ^ unit - m * 2 ^ e)
  have hpos : (0 : ℚ) < 2 ^ unit := by positivity
  by_contra hlt
  have hnext : ((inUnits m e unit : ℚ) + 1) * 2 ^ unit ≤ n * 2 ^ unit :=
    mul_le_mul_of_nonneg_right (by exact_mod_cast Nat.lt_of_not_le hlt) hpos.le
  linarith

theorem two_mul_abs_signed_inUnits_sub_le (s : Bool) (m : ℕ) (e unit : ℤ) :
    2 * |(signed s (inUnits m e unit) : ℚ) * 2 ^ unit - signed s m * 2 ^ e| ≤ 2 ^ unit := by
  have herror := two_mul_abs_inUnits_sub_le m e unit
  cases s with
  | false => simpa [signed] using herror
  | true =>
      simp only [signed, if_true, Int.cast_neg, Int.cast_natCast]
      rwa [neg_mul, neg_mul, ← neg_sub', abs_neg]

theorem eq_of_two_mul_abs_sub_le_one {i j : ℤ} (h : 2 * |(i : ℚ) - j| ≤ 1) : i = j := by
  have hlt : |(i : ℚ) - j| < 1 := by linarith
  have hzero : |i - j| < 1 := by exact_mod_cast hlt
  exact Int.sub_eq_zero.mp (Int.abs_lt_one_iff.mp hzero)

theorem Number.Denotes.nearest?_eq {x : Number} {i : ℤ} (h : x.Denotes i) :
    x.nearest? = some i := by
  obtain ⟨s, m, e, rfl, hvalue⟩ := h
  have hnearest : (finite s m e).nearest? = some (signed s (inUnits m e 0)) := by
    simp [nearest?, inUnits]
  have herror := two_mul_abs_signed_inUnits_sub_le s m e 0
  rw [← hvalue, zpow_zero, mul_one] at herror
  rw [hnearest, eq_of_two_mul_abs_sub_le_one herror]

end RasterTensor.Binary
