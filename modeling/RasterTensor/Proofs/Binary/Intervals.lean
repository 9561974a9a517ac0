import Mathlib.Data.Int.Log
import Mathlib.Data.Rat.Floor
import Mathlib.Tactic.FieldSimp
import RasterTensor.Proofs.Binary.Rounding

/-!
# Numbers between bounds

A positive number is stored with an error of less than a quarter of it. A quotient is first worked
out to more digits than the format has, with a last digit that says whether anything is left, which
errs by less than a quarter as well. So bounds on the operands give bounds on a result.
-/

namespace RasterTensor.Binary

variable {x y : Number} {q r : ℚ}

/-- A value that differs from another by a quarter of it at most. -/
def IsNear (q r : ℚ) : Prop := 4 * |r - q| ≤ q

theorem IsNear.le (h : IsNear q r) : 3 * q ≤ 4 * r ∧ 4 * r ≤ 5 * q := by
  obtain ⟨hlow, hhigh⟩ := abs_le.mp (le_div_iff₀' (by norm_num) |>.mpr h)
  constructor <;> linarith

theorem IsNear.mul_pos {c : ℚ} (h : IsNear q r) (hc : 0 < c) : IsNear (q * c) (r * c) := by
  unfold IsNear at h ⊢
  rw [← sub_mul, abs_mul, abs_of_pos hc, ← mul_assoc]
  exact mul_le_mul_of_nonneg_right h hc.le

/-- The quotient of natural numbers in halves, rounded to an odd number of them where a remainder is
left. -/
theorem isNear_halves {a b : ℕ} (hb : 0 < b) (h : 2 * b ≤ a) :
    IsNear (a / b : ℚ) ((2 * (a / b) + if a % b = 0 then 0 else 1 : ℕ) * 2⁻¹) := by
  have hdivision : (b : ℚ) * (a / b : ℕ) + (a % b : ℕ) = a := by exact_mod_cast Nat.div_add_mod a b
  have hremainder : ((a % b : ℕ) : ℚ) < b := by exact_mod_cast Nat.mod_lt a hb
  have hpos : (0 : ℚ) < b := by exact_mod_cast hb
  have htwo : (2 : ℚ) ≤ a / b := (le_div_iff₀ hpos).mpr (by exact_mod_cast h)
  have hquotient : (a : ℚ) / b = (a / b : ℕ) + (a % b : ℕ) / b := by
    rw [← hdivision, add_div, mul_div_cancel_left₀ _ hpos.ne']
  have hnonneg : (0 : ℚ) ≤ (a % b : ℕ) / b := by positivity
  have hlt : ((a % b : ℕ) : ℚ) / b < 1 := (div_lt_one hpos).mpr hremainder
  unfold IsNear
  split
  · next hexact =>
    rw [hexact, Nat.cast_zero, zero_div, add_zero] at hquotient
    have hsame : ((2 * (a / b) + 0 : ℕ) : ℚ) * 2⁻¹ = a / b := by
      push_cast
      linarith
    rw [hsame, sub_self, abs_zero, mul_zero]
    linarith
  · have herror : |((2 * (a / b) + 1 : ℕ) : ℚ) * 2⁻¹ - a / b| ≤ 1 / 2 := by
      push_cast
      rw [abs_le]
      constructor <;> linarith
    linarith

namespace Format

theorem exists_quotient (f : Format) (s : Bool) {m n : ℕ} (hm : m ≠ 0) (hn : n ≠ 0) :
    ∃ (k : ℕ) (e : ℤ), f.quotient s m n = .finite s k e ∧ IsNear (m / n : ℚ) (k * 2 ^ e) := by
  let shift : ℤ := (f.precision : ℤ) + 2 + n.log2 - m.log2
  let a := m <<< shift.toNat
  let b := n <<< (-shift).toNat
  refine ⟨_, _, rfl, ?_⟩
  have hb : 0 < b := by
    simp only [b, Nat.shiftLeft_eq]
    exact Nat.mul_pos (Nat.pos_of_ne_zero hn) (Nat.two_pow_pos _)
  have hle : 2 * b ≤ a := by
    have hexponents : n.log2 + 1 + (-shift).toNat + 1 ≤ m.log2 + shift.toNat := by omega
    simp only [a, b, Nat.shiftLeft_eq]
    calc 2 * (n * 2 ^ (-shift).toNat)
        ≤ 2 * (2 ^ (n.log2 + 1) * 2 ^ (-shift).toNat) :=
          Nat.mul_le_mul_left 2 (Nat.mul_le_mul_right _ Nat.lt_log2_self.le)
      _ = 2 ^ (n.log2 + 1 + (-shift).toNat + 1) := by rw [← Nat.pow_add, ← Nat.pow_succ']
      _ ≤ 2 ^ (m.log2 + shift.toNat) := Nat.pow_le_pow_right (by decide) hexponents
      _ = 2 ^ m.log2 * 2 ^ shift.toNat := Nat.pow_add ..
      _ ≤ m * 2 ^ shift.toNat := Nat.mul_le_mul_right _ (Nat.log2_self_le hm)
  have hscaled : (a : ℚ) / b * 2 ^ (-shift) = m / n := by
    have hsplit : (2 : ℚ) ^ (-shift) = 2 ^ (-shift).toNat / 2 ^ shift.toNat := by
      rw [← zpow_natCast, ← zpow_natCast, ← zpow_sub₀ (by norm_num)]
      congr 1
      omega
    have hcast : (n : ℚ) ≠ 0 := by exact_mod_cast hn
    simp only [a, b, Nat.shiftLeft_eq, hsplit]
    push_cast
    field_simp
  rw [sub_eq_add_neg (-shift) 1, zpow_add₀ (by norm_num), zpow_neg_one, mul_comm ((2 : ℚ) ^ _),
    ← mul_assoc, ← hscaled]
  exact (isNear_halves hb hle).mul_pos (by positivity)

end Format

theorem Number.Denotes.exists_pos (hx : x.Denotes q) (hq : 0 < q) :
    ∃ (m : ℕ) (e : ℤ), x = .finite false m e ∧ m ≠ 0 ∧ q = m * 2 ^ e := by
  obtain ⟨s, m, e, rfl, rfl⟩ := hx
  have hpos : (0 : ℚ) < 2 ^ e := by positivity
  have hsigned : 0 < signed s m := by exact_mod_cast pos_of_mul_pos_left hq hpos.le
  cases s with
  | true =>
      simp only [signed, if_true] at hsigned
      omega
  | false =>
      refine ⟨m, e, rfl, ?_, by simp [signed]⟩
      rintro rfl
      simp [signed] at hsigned

theorem Format.exists_divide (f : Format) (hx : x.Denotes q) (hy : y.Denotes r) (hq : 0 < q)
    (hr : 0 < r) : ∃ p, (f.divide x y).Denotes p ∧ IsNear (q / r) p := by
  obtain ⟨m, e, rfl, hm, rfl⟩ := hx.exists_pos hq
  obtain ⟨n, g, rfl, hn, rfl⟩ := hy.exists_pos hr
  obtain ⟨k, h, hquotient, hnear⟩ := f.exists_quotient (false ^^ false) hm hn
  have hdivide : f.divide (.finite false m e) (.finite false n g) =
      .finite (false ^^ false) k (h + e - g) := by
    simp only [divide, if_neg hm, if_neg hn, hquotient]
  refine ⟨_, hdivide ▸ Number.denotes_finite _ _ _, ?_⟩
  have hscaled := hnear.mul_pos (c := (2 : ℚ) ^ (e - g)) (by positivity)
  have hvalue : (k : ℚ) * 2 ^ h * 2 ^ (e - g) = signed (false ^^ false) k * 2 ^ (h + e - g) := by
    rw [mul_assoc, ← zpow_add₀ (by norm_num), ← add_sub_assoc]
    simp [signed]
  have hratio : (m : ℚ) / n * 2 ^ (e - g) = m * 2 ^ e / (n * 2 ^ g) := by
    rw [zpow_sub₀ (by norm_num), mul_div_mul_comm]
  rwa [hvalue, hratio] at hscaled

/-! ## Storing a positive number -/

namespace Binary64

theorem exists_isNear_ofNumber (hx : x.Denotes q) (hlow : 1 ≤ q * 2 ^ 200) (hhigh : q ≤ 2 ^ 200) :
    ∃ r, (ofNumber x).number.Denotes r ∧ IsNear q r := by
  have hpos : 0 < q := pos_of_mul_pos_left (lt_of_lt_of_le one_pos hlow) (by positivity)
  have hfloor := Int.zpow_log_le_self (b := 2) (by decide) hpos
  have hceil := Int.lt_zpow_succ_log_self (b := 2) (by decide) q
  rw [Nat.cast_ofNat] at hfloor hceil
  generalize Int.log 2 q = k at hfloor hceil
  have hk : 0 < k + 1 + 200 := by
    rw [← one_lt_zpow_iff_right₀ (show (1 : ℚ) < 2 by norm_num), zpow_add₀ (by norm_num)]
    exact hlow.trans_lt (mul_lt_mul_of_pos_right hceil (by norm_num))
  have hk' : k ≤ 200 := (zpow_le_zpow_iff_right₀ (by norm_num)).mp (hfloor.trans hhigh)
  have habs : |q| < 2 ^ (k - 52 + 53) := by
    rwa [abs_of_pos hpos, show k - 52 + 53 = k + 1 by ring]
  obtain ⟨r, hr, herror⟩ := exists_denotes_ofNumber hx habs (by omega) (by omega)
  refine ⟨r, hr, ?_⟩
  have hunit : (2 : ℚ) ^ (k - 52) * 2 ≤ 2 ^ k := by
    rw [← zpow_add_one₀ (by norm_num)]
    exact zpow_le_zpow_right₀ (by norm_num) (by omega)
  unfold IsNear
  linarith

/-- A number of 64 bits between two bounds. -/
def Lies (a : Binary64) (low high : ℚ) : Prop := ∃ q, a.number.Denotes q ∧ low ≤ q ∧ q ≤ high

variable {a b : Binary64} {low high low' high' : ℚ}

theorem Lies.imp (h : a.Lies low high) (hlow : low' ≤ low) (hhigh : high ≤ high') :
    a.Lies low' high' := by
  obtain ⟨q, hq, hle, hge⟩ := h
  exact ⟨q, hq, hlow.trans hle, hge.trans hhigh⟩

theorem lies_ofNumber (hx : x.Denotes q) (hlow : low ≤ q) (hhigh : q ≤ high)
    (hleast : 1 ≤ low * 2 ^ 200) (hgreatest : high ≤ 2 ^ 200) :
    (ofNumber x).Lies (3 / 4 * low) (5 / 4 * high) := by
  obtain ⟨r, hr, hnear⟩ := exists_isNear_ofNumber hx (by linarith) (by linarith)
  obtain ⟨hbelow, habove⟩ := hnear.le
  exact ⟨r, hr, by linarith, by linarith⟩

theorem lies_ofNat {n k : ℕ} (hn : 0 < n) (hk : n ≤ 2 ^ k) (hk' : k ≤ 200) :
    (ofNat n).Lies (3 / 4) (5 / 4 * 2 ^ k) := by
  have hone : (1 : ℚ) ≤ n := by exact_mod_cast hn
  have hpow : (2 : ℚ) ^ k ≤ 2 ^ 200 := pow_le_pow_right₀ (by norm_num) hk'
  have hlies := lies_ofNumber (Number.denotes_ofNat n) hone (by exact_mod_cast hk) (by norm_num)
    hpow
  rwa [mul_one] at hlies

namespace Lies

theorem mul (ha : a.Lies low high) (hb : b.Lies low' high') (hpos : 0 < low) (hpos' : 0 < low')
    (hleast : 1 ≤ low * low' * 2 ^ 200) (hgreatest : high * high' ≤ 2 ^ 200) :
    (a * b).Lies (3 / 4 * (low * low')) (5 / 4 * (high * high')) := by
  obtain ⟨q, hq, hlow, hhigh⟩ := ha
  obtain ⟨r, hr, hlow', hhigh'⟩ := hb
  have hbelow : low * low' ≤ q * r := mul_le_mul hlow hlow' hpos'.le (hpos.le.trans hlow)
  have habove : q * r ≤ high * high' :=
    mul_le_mul hhigh hhigh' (hpos'.le.trans hlow') (hpos.le.trans (hlow.trans hhigh))
  exact lies_ofNumber (hq.mul hr) hbelow habove hleast hgreatest

theorem add (ha : a.Lies low high) (hb : b.Lies low' high') (hleast : 1 ≤ (low + low') * 2 ^ 200)
    (hgreatest : high + high' ≤ 2 ^ 200) :
    (a + b).Lies (3 / 4 * (low + low')) (5 / 4 * (high + high')) := by
  obtain ⟨q, hq, hlow, hhigh⟩ := ha
  obtain ⟨r, hr, hlow', hhigh'⟩ := hb
  exact lies_ofNumber (hq.add hr) (by linarith) (by linarith) hleast hgreatest

theorem div (ha : a.Lies low high) (hb : b.Lies low' high') (hpos : 0 < low) (hpos' : 0 < low')
    (hleast : 1 ≤ low / high' * 2 ^ 100) (hgreatest : high / low' ≤ 2 ^ 100) :
    (a / b).Lies (9 / 16 * (low / high')) (25 / 16 * (high / low')) := by
  obtain ⟨q, hq, hlow, hhigh⟩ := ha
  obtain ⟨r, hr, hlow', hhigh'⟩ := hb
  have hr' : 0 < r := hpos'.trans_le hlow'
  have hbelow : low / high' ≤ q / r := div_le_div₀ (hpos.le.trans hlow) hlow hr' hhigh'
  have habove : q / r ≤ high / low' :=
    div_le_div₀ (hpos.le.trans (hlow.trans hhigh)) hhigh hpos' hlow'
  obtain ⟨exact, hexact, hnear⟩ := Format.double.exists_divide hq hr (hpos.trans_le hlow) hr'
  have hleast' : 3 / 4 * (low / high') ≤ exact := by
    have hnear' := hnear.le.1
    linarith
  have hgreatest' : exact ≤ 5 / 4 * (high / low') := by
    have hnear' := hnear.le.2
    linarith
  obtain ⟨p, hp, hlowp, hhighp⟩ :=
    lies_ofNumber hexact hleast' hgreatest' (by linarith) (by linarith)
  exact ⟨p, hp, by linarith, by linarith⟩

end Lies

end Binary64

end RasterTensor.Binary
