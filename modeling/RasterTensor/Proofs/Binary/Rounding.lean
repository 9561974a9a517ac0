import Mathlib.Data.Nat.Bitwise
import RasterTensor.Binary.Format
import RasterTensor.Proofs.Binary.Value

/-!
# Rounding to a format

Encoding rounds a number to a multiple of the last place that the format has for its size, and
decoding gives exactly that multiple. So a number that the format can hold survives unchanged, and
any other number of moderate size is off by half a last place at most.
-/

namespace RasterTensor.Binary

namespace Format

variable {f : Format} {m k r field fraction : ℕ} {e : ℤ} {s : Bool} {x : Number} {q : ℚ}

/-- The exponent of the last place of `m * 2 ^ e`. -/
def unit (f : Format) (m : ℕ) (e : ℤ) : ℤ := max f.leastExponent (e + m.log2 + 1 - f.precision)

theorem magnitude_eq (hm : m ≠ 0) : f.magnitude m e =
    min f.infinity ((f.unit m e - f.leastExponent).toNat * 2 ^ (f.precision - 1) +
      inUnits m e (f.unit m e)) := by
  rw [magnitude, if_neg hm, ← Nat.shiftLeft_eq]
  rfl

theorem infinity_eq (f : Format) :
    f.infinity = (2 ^ f.exponentBits - 1) * 2 ^ (f.precision - 1) := by
  simp [infinity, Nat.shiftLeft_eq]

theorem two_pow_precision (hp : 0 < f.precision) : 2 ^ f.precision = 2 * 2 ^ (f.precision - 1) := by
  rw [← Nat.pow_succ', Nat.succ_eq_add_one, Nat.sub_add_cancel hp]

theorem signBit_eq (f : Format) : f.signBit = 2 ^ (f.precision - 1 + f.exponentBits) := by
  simp [signBit, Nat.shiftLeft_eq]

theorem infinity_lt_signBit (f : Format) : f.infinity < f.signBit := by
  have hpos := Nat.two_pow_pos f.exponentBits
  rw [infinity_eq, signBit_eq, Nat.add_comm, Nat.pow_add]
  exact Nat.mul_lt_mul_of_pos_right (by omega) (Nat.two_pow_pos _)

/-! ## Reading what was put together -/

theorem withSign_and_signBit {magnitude : ℕ} (h : magnitude < f.signBit) :
    (f.withSign s magnitude &&& f.signBit != 0) = s := by
  rw [signBit_eq] at h
  rw [withSign, signBit_eq, Nat.and_two_pow]
  cases s with
  | true => simp [Nat.testBit_two_pow_add_eq, Nat.testBit_lt_two_pow h]
  | false => simp [Nat.testBit_lt_two_pow h]

theorem withSign_mod_signBit {magnitude : ℕ} (h : magnitude < f.signBit) :
    f.withSign s magnitude % f.signBit = magnitude := by
  unfold withSign
  cases s with
  | true => rw [if_pos rfl, Nat.add_mod_left, Nat.mod_eq_of_lt h]
  | false => exact Nat.mod_eq_of_lt h

theorem decode_withSign (hfraction : fraction < 2 ^ (f.precision - 1))
    (hfield : field < 2 ^ f.exponentBits - 1) :
    f.decode (f.withSign s (field * 2 ^ (f.precision - 1) + fraction)) =
      if field = 0 then .finite s fraction f.leastExponent
      else .finite s (fraction + 2 ^ (f.precision - 1)) (f.leastExponent + field - 1) := by
  have hpos := Nat.two_pow_pos (f.precision - 1)
  have hfinite : field * 2 ^ (f.precision - 1) + fraction < f.infinity := by
    have hnext := Nat.mul_le_mul_right (2 ^ (f.precision - 1)) hfield
    rw [Nat.succ_mul] at hnext
    rw [infinity_eq]
    omega
  have hsign := Nat.lt_trans hfinite f.infinity_lt_signBit
  have hdiv : (field * 2 ^ (f.precision - 1) + fraction) / 2 ^ (f.precision - 1) = field := by
    rw [Nat.mul_comm, Nat.mul_add_div hpos, Nat.div_eq_of_lt hfraction, Nat.add_zero]
  have hmod : (field * 2 ^ (f.precision - 1) + fraction) % 2 ^ (f.precision - 1) = fraction := by
    rw [Nat.mul_comm, Nat.mul_add_mod, Nat.mod_eq_of_lt hfraction]
  simp only [decode, withSign_and_signBit hsign, withSign_mod_signBit hsign,
    Nat.shiftRight_eq_div_pow, Nat.shiftLeft_eq, Nat.one_mul, hdiv, hmod]
  rw [if_neg (Nat.ne_of_lt hfield)]

/-- A significand that rounding took up to the next power of two carries into the field of the
exponent. -/
theorem denotes_decode (hp : 0 < f.precision) (hr : r ≤ 2 ^ f.precision)
    (hk : k = 0 ∨ 2 ^ (f.precision - 1) ≤ r) (hfinite : k + 2 < 2 ^ f.exponentBits - 1) :
    (f.decode (f.withSign s (k * 2 ^ (f.precision - 1) + r))).Denotes
      (signed s r * (2 : ℚ) ^ (f.leastExponent + k)) := by
  have hdouble := two_pow_precision hp
  have hpos := Nat.two_pow_pos (f.precision - 1)
  by_cases hsmall : r < 2 ^ (f.precision - 1)
  · obtain rfl : k = 0 := by omega
    rw [decode_withSign hsmall (by omega), if_pos rfl]
    simpa using Number.denotes_finite s r f.leastExponent
  · by_cases hcarry : r = 2 ^ f.precision
    · have hfields : k * 2 ^ (f.precision - 1) + r = (k + 2) * 2 ^ (f.precision - 1) + 0 := by
        rw [hcarry, hdouble, Nat.add_mul, Nat.add_zero]
      rw [hfields, decode_withSign hpos hfinite, if_neg (by omega), Nat.zero_add]
      refine ⟨s, _, _, rfl, ?_⟩
      have hexponent : f.leastExponent + ((k + 2 : ℕ) : ℤ) - 1 = f.leastExponent + k + 1 := by
        push_cast
        ring
      rw [hcarry, hdouble, hexponent, zpow_add_one₀ (by norm_num), cast_signed, cast_signed]
      push_cast
      ring
    · have hfields : k * 2 ^ (f.precision - 1) + r =
          (k + 1) * 2 ^ (f.precision - 1) + (r - 2 ^ (f.precision - 1)) := by
        rw [Nat.add_mul, Nat.one_mul]
        omega
      rw [hfields, decode_withSign (by omega) (by omega), if_neg (by omega),
        Nat.sub_add_cancel (by omega)]
      refine ⟨s, _, _, rfl, ?_⟩
      rw [Nat.cast_succ, ← add_assoc, add_sub_cancel_right]

/-! ## Rounding -/

theorem two_pow_log2_add_le (e : ℤ) (hm : m ≠ 0) : (2 : ℚ) ^ (m.log2 + e) ≤ m * 2 ^ e := by
  have hlog : (2 : ℚ) ^ m.log2 ≤ m := by exact_mod_cast Nat.log2_self_le hm
  rw [zpow_add₀ (by norm_num), zpow_natCast]
  exact mul_le_mul_of_nonneg_right hlog (by positivity)

theorem lt_two_pow_log2_add (m : ℕ) (e : ℤ) : (m : ℚ) * 2 ^ e < 2 ^ (m.log2 + 1 + e) := by
  have hlog : (m : ℚ) < 2 ^ (m.log2 + 1) := by exact_mod_cast Nat.lt_log2_self
  rw [zpow_add₀ (by norm_num)]
  exact mul_lt_mul_of_pos_right (by exact_mod_cast hlog) (by positivity)

theorem inUnits_unit_le (f : Format) (m : ℕ) (e : ℤ) :
    inUnits m e (f.unit m e) ≤ 2 ^ f.precision := by
  have hunit : (m.log2 : ℤ) + 1 + e ≤ f.precision + f.unit m e := by
    unfold unit
    omega
  apply inUnits_le
  calc (m : ℚ) * 2 ^ e ≤ 2 ^ ((m.log2 : ℤ) + 1 + e) := (lt_two_pow_log2_add m e).le
    _ ≤ 2 ^ ((f.precision : ℤ) + f.unit m e) := zpow_le_zpow_right₀ (by norm_num) hunit
    _ = ((2 ^ f.precision : ℕ) : ℚ) * 2 ^ f.unit m e := by
        rw [zpow_add₀ (by norm_num), zpow_natCast, Nat.cast_pow, Nat.cast_ofNat]

theorem le_inUnits_of_place (hm : m ≠ 0)
    (hplace : ((f.precision - 1 : ℕ) : ℤ) + f.unit m e ≤ m.log2 + e) :
    2 ^ (f.precision - 1) ≤ inUnits m e (f.unit m e) := by
  apply le_inUnits
  calc ((2 ^ (f.precision - 1) : ℕ) : ℚ) * 2 ^ f.unit m e
      = 2 ^ (((f.precision - 1 : ℕ) : ℤ) + f.unit m e) := by
        rw [zpow_add₀ (by norm_num), zpow_natCast, Nat.cast_pow, Nat.cast_ofNat]
    _ ≤ 2 ^ ((m.log2 : ℤ) + e) := zpow_le_zpow_right₀ (by norm_num) hplace
    _ ≤ m * 2 ^ e := two_pow_log2_add_le e hm

theorem le_inUnits_unit (hp : 0 < f.precision) (hm : m ≠ 0)
    (hunit : f.unit m e ≠ f.leastExponent) :
    2 ^ (f.precision - 1) ≤ inUnits m e (f.unit m e) := by
  apply le_inUnits_of_place hm
  unfold unit at hunit ⊢
  omega

theorem magnitude_of_lt (hp : 0 < f.precision) (hm : m ≠ 0)
    (hfinite : (f.unit m e - f.leastExponent).toNat + 2 < 2 ^ f.exponentBits - 1) :
    f.magnitude m e = (f.unit m e - f.leastExponent).toNat * 2 ^ (f.precision - 1) +
      inUnits m e (f.unit m e) := by
  have hunits := f.inUnits_unit_le m e
  have hdouble := two_pow_precision hp
  have hcarry := Nat.mul_le_mul_right (2 ^ (f.precision - 1)) hfinite.le
  rw [Nat.add_mul] at hcarry
  rw [magnitude_eq hm, Nat.min_eq_right]
  rw [infinity_eq]
  omega

/-- A number below a power of two that the format reaches is stored as a multiple of its last
place, which is off by half that place at most. -/
theorem exists_denotes_encode {place : ℤ} (hp : 0 < f.precision) (hx : x.Denotes q)
    (hq : |q| < 2 ^ (place + f.precision)) (hleast : f.leastExponent ≤ place)
    (hfinite : place + 3 < f.leastExponent + (2 ^ f.exponentBits : ℕ)) :
    ∃ (i : ℤ) (unit : ℤ), unit ≤ place ∧ (f.decode (f.encode x)).Denotes (i * 2 ^ unit) ∧
      2 * |i * 2 ^ unit - q| ≤ 2 ^ unit := by
  obtain ⟨s, m, e, rfl, rfl⟩ := hx
  by_cases hm : m = 0
  · subst hm
    have hzero := denotes_decode (s := s) hp (Nat.zero_le _) (.inl rfl) (by omega)
    rw [Nat.zero_mul, Nat.cast_zero, Int.add_zero, Nat.add_zero, signed_zero] at hzero
    refine ⟨0, f.leastExponent, hleast, ?_, ?_⟩
    · simpa only [encode, magnitude, if_pos] using hzero
    · rw [signed_zero, Int.cast_zero, zero_mul, zero_mul, sub_self, abs_zero, mul_zero]
      positivity
  · have hlog : (m.log2 : ℤ) + e < place + f.precision := by
      rw [abs_mul, abs_signed, abs_of_pos (by positivity)] at hq
      exact (zpow_lt_zpow_iff_right₀ (by norm_num)).mp ((two_pow_log2_add_le e hm).trans_lt hq)
    have hle : f.leastExponent ≤ f.unit m e := Int.le_max_left ..
    have hplace : f.unit m e ≤ place := by
      unfold unit
      omega
    have hfield : (f.unit m e - f.leastExponent).toNat + 2 < 2 ^ f.exponentBits - 1 := by omega
    have hhidden : (f.unit m e - f.leastExponent).toNat = 0 ∨
        2 ^ (f.precision - 1) ≤ inUnits m e (f.unit m e) := by
      by_cases hunit : f.unit m e = f.leastExponent
      · exact .inl (by rw [hunit, Int.sub_self, Int.toNat_zero])
      · exact .inr (le_inUnits_unit hp hm hunit)
    have hstored := denotes_decode (s := s) hp (f.inUnits_unit_le m e) hhidden hfield
    rw [← magnitude_of_lt hp hm hfield, Int.toNat_of_nonneg (by omega),
      add_sub_cancel] at hstored
    exact ⟨_, _, hplace, hstored, two_mul_abs_signed_inUnits_sub_le s m e _⟩

/-- A multiple of a place that needs no more digits than the format has is stored exactly. -/
theorem denotes_encode_exact {i place : ℤ} (hp : 0 < f.precision) (hx : x.Denotes (i * 2 ^ place))
    (hi : |i| < 2 ^ f.precision) (hleast : f.leastExponent ≤ place)
    (hfinite : place + 3 < f.leastExponent + (2 ^ f.exponentBits : ℕ)) :
    (f.decode (f.encode x)).Denotes (i * 2 ^ place) := by
  have hpos : (0 : ℚ) < 2 ^ place := by positivity
  have hq : |(i : ℚ) * 2 ^ place| < 2 ^ (place + f.precision) := by
    have habs : |(i : ℚ)| < 2 ^ f.precision := by exact_mod_cast hi
    rw [abs_mul, abs_of_pos hpos, add_comm, zpow_add₀ (by norm_num), zpow_natCast]
    exact mul_lt_mul_of_pos_right habs hpos
  obtain ⟨n, unit, hunit, hstored, herror⟩ := exists_denotes_encode hp hx hq hleast hfinite
  -- In the last place of what is stored, both are integers.
  have hscaled : (i : ℚ) * 2 ^ place = ((i * 2 ^ (place - unit).toNat : ℤ) : ℚ) * 2 ^ unit := by
    push_cast
    rw [mul_assoc, ← zpow_natCast, Int.toNat_of_nonneg (by omega), ← zpow_add₀ (by norm_num),
      Int.sub_add_cancel]
  have hunits : (0 : ℚ) < 2 ^ unit := by positivity
  have hclose : 2 * |(n : ℚ) - (i * 2 ^ (place - unit).toNat : ℤ)| ≤ 1 := by
    rw [hscaled, ← sub_mul, abs_mul, abs_of_pos hunits, ← mul_assoc] at herror
    exact le_of_mul_le_mul_right (herror.trans_eq (one_mul _).symm) hunits
  rw [hscaled, ← eq_of_two_mul_abs_sub_le_one hclose]
  exact hstored

theorem exists_denotes_encode_near {place : ℤ} (hp : 0 < f.precision) (hx : x.Denotes q)
    (hq : |q| < 2 ^ (place + f.precision)) (hleast : f.leastExponent ≤ place)
    (hfinite : place + 3 < f.leastExponent + (2 ^ f.exponentBits : ℕ)) :
    ∃ r : ℚ, (f.decode (f.encode x)).Denotes r ∧ 2 * |r - q| ≤ 2 ^ place := by
  obtain ⟨i, unit, hunit, hstored, herror⟩ := exists_denotes_encode hp hx hq hleast hfinite
  exact ⟨_, hstored, herror.trans (zpow_le_zpow_right₀ (by norm_num) hunit)⟩

theorem lt_of_decode {bits : ℕ} (hp : 0 < f.precision)
    (h : f.decode bits = .finite s m e) :
    m < 2 ^ f.precision ∧ e < f.leastExponent + (2 ^ f.exponentBits : ℕ) := by
  have hpos := Nat.two_pow_pos (f.precision - 1)
  have hdouble := two_pow_precision hp
  have hfraction := Nat.mod_lt (bits % f.signBit) hpos
  have hfield : bits % f.signBit / 2 ^ (f.precision - 1) < 2 ^ f.exponentBits := by
    have hmagnitude := Nat.mod_lt bits (Nat.zero_lt_of_lt f.infinity_lt_signBit)
    rw [signBit_eq, Nat.pow_add] at hmagnitude
    exact Nat.div_lt_of_lt_mul (by rwa [signBit_eq, Nat.pow_add])
  simp only [decode, Nat.shiftRight_eq_div_pow, Nat.shiftLeft_eq, Nat.one_mul] at h
  split at h
  · split at h <;> cases h
  · split at h
    · cases h
      exact ⟨by omega, by have := Nat.two_pow_pos f.exponentBits; omega⟩
    · cases h
      exact ⟨by omega, by omega⟩

theorem magnitude_le_infinity (f : Format) (m : ℕ) (e : ℤ) : f.magnitude m e ≤ f.infinity := by
  by_cases hm : m = 0
  · simp [magnitude, hm]
  · rw [magnitude_eq hm]
    exact Nat.min_le_left ..

theorem encode_lt (hx : x.Denotes q) : f.encode x < 2 * f.signBit := by
  obtain ⟨s, m, e, rfl, -⟩ := hx
  have hinfinity := f.infinity_lt_signBit
  have hmagnitude := f.magnitude_le_infinity m e
  simp only [encode, withSign]
  split <;> omega

end Format

/-! ## Numbers of 32 and of 64 bits -/

variable {x : Number} {q r : ℚ} {i place : ℤ}

/-- What is off by half a place at most has one more digit at most. -/
theorem abs_lt_of_error {digits : ℤ} (hq : |q| < 2 ^ (place + digits)) (hdigits : 0 ≤ digits)
    (herror : 2 * |r - q| ≤ 2 ^ place) : |r| < 2 ^ (place + digits + 1) := by
  have htriangle := abs_sub_abs_le_abs_sub r q
  have hplace : (2 : ℚ) ^ place ≤ 2 ^ (place + digits) :=
    zpow_le_zpow_right₀ (by norm_num) (by omega)
  have hpos : (0 : ℚ) < 2 ^ (place + digits) := by positivity
  rw [zpow_add_one₀ (by norm_num)]
  linarith

namespace Binary64

theorem number_ofNumber (hx : x.Denotes q) :
    (ofNumber x).number = Format.double.decode (Format.double.encode x) := by
  have hlt : Format.double.encode x < 2 ^ 64 := Format.encode_lt hx
  simp only [ofNumber, number, UInt64.toNat_ofNat', Nat.mod_eq_of_lt hlt]

theorem finite_place (hplace : place ≤ 970) :
    place + 3 < Format.double.leastExponent + (2 ^ Format.double.exponentBits : ℕ) := by
  have hfinite : Format.double.leastExponent + (2 ^ Format.double.exponentBits : ℕ) = 974 := rfl
  omega

theorem denotes_ofNumber_exact (hx : x.Denotes (i * 2 ^ place)) (hi : |i| < 2 ^ 53)
    (hleast : -1074 ≤ place) (hplace : place ≤ 970) :
    (ofNumber x).number.Denotes (i * 2 ^ place) := by
  rw [number_ofNumber hx]
  exact Format.denotes_encode_exact (by decide) hx hi hleast (finite_place hplace)

theorem exists_denotes_ofNumber (hx : x.Denotes q) (hq : |q| < 2 ^ (place + 53))
    (hleast : -1074 ≤ place) (hplace : place ≤ 970) :
    ∃ r : ℚ, (ofNumber x).number.Denotes r ∧ 2 * |r - q| ≤ 2 ^ place := by
  rw [number_ofNumber hx]
  exact Format.exists_denotes_encode_near (by decide) hx hq hleast (finite_place hplace)

theorem denotes_half : half.number.Denotes (1 / 2) := by
  have hexact := denotes_ofNumber_exact (Number.denotes_finite false 1 (-1)) (by decide)
    (by norm_num) (by norm_num)
  simpa [signed, half] using hexact

theorem denotes_ofInt (hi : |i| < 2 ^ 53) : (ofInt i).number.Denotes i := by
  have hint : (Number.ofInt i).Denotes (i * 2 ^ (0 : ℤ)) := by
    simpa only [zpow_zero, mul_one] using Number.denotes_ofInt i
  have hexact := denotes_ofNumber_exact hint hi (by norm_num) (by norm_num)
  rwa [zpow_zero, mul_one] at hexact

end Binary64

namespace Binary32

variable {a b : Binary32} {j : ℤ}

theorem number_ofNumber (hx : x.Denotes q) :
    (ofNumber x).number = Format.single.decode (Format.single.encode x) := by
  have hlt : Format.single.encode x < 2 ^ 32 := Format.encode_lt hx
  simp only [ofNumber, number, UInt32.toNat_ofNat', Nat.mod_eq_of_lt hlt]

theorem finite_place (hplace : place ≤ 103) :
    place + 3 < Format.single.leastExponent + (2 ^ Format.single.exponentBits : ℕ) := by
  have hfinite : Format.single.leastExponent + (2 ^ Format.single.exponentBits : ℕ) = 107 := rfl
  omega

theorem denotes_ofNumber_exact (hx : x.Denotes (i * 2 ^ place)) (hi : |i| < 2 ^ 24)
    (hleast : -149 ≤ place) (hplace : place ≤ 103) :
    (ofNumber x).number.Denotes (i * 2 ^ place) := by
  rw [number_ofNumber hx]
  exact Format.denotes_encode_exact (by decide) hx hi hleast (finite_place hplace)

theorem denotes_ofNumber_int (hx : x.Denotes i) (hi : |i| < 2 ^ 24) :
    (ofNumber x).number.Denotes i := by
  have hint : x.Denotes (i * 2 ^ (0 : ℤ)) := by rwa [zpow_zero, mul_one]
  have hexact := denotes_ofNumber_exact hint hi (by norm_num) (by norm_num)
  rwa [zpow_zero, mul_one] at hexact

theorem denotes_sub_int (ha : a.number.Denotes i) (hb : b.number.Denotes j)
    (h : |i - j| < 2 ^ 24) : (a - b).number.Denotes (i - j : ℤ) := by
  have hexact := ha.sub hb
  rw [← Int.cast_sub] at hexact
  exact denotes_ofNumber_int hexact h

theorem denotes_mul_int (ha : a.number.Denotes i) (hb : b.number.Denotes j)
    (h : |i * j| < 2 ^ 24) : (a * b).number.Denotes (i * j : ℤ) := by
  have hexact := ha.mul hb
  rw [← Int.cast_mul] at hexact
  exact denotes_ofNumber_int hexact h

theorem exists_denotes_ofNumber (hx : x.Denotes q) (hq : |q| < 2 ^ (place + 24))
    (hleast : -149 ≤ place) (hplace : place ≤ 103) :
    ∃ r : ℚ, (ofNumber x).number.Denotes r ∧ 2 * |r - q| ≤ 2 ^ place := by
  rw [number_ofNumber hx]
  exact Format.exists_denotes_encode_near (by decide) hx hq hleast (finite_place hplace)

end Binary32

end RasterTensor.Binary
