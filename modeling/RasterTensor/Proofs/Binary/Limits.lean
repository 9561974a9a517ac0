import RasterTensor.Proofs.Binary.Patterns

/-!
# The limits of a format

A number is stored as zero exactly when it is half the least positive number of the format at most.
One that reaches a power of two stays there when it is stored, unless it becomes an infinity, and it
does not become one as long as it is less than half a place above the greatest number.
-/

namespace RasterTensor.Binary

/-! ## Halves of a unit -/

theorem shiftNearest_eq_zero_iff {m k : ℕ} : shiftNearest m k = 0 ↔ 2 * m ≤ 2 ^ k := by
  have hpos := Nat.two_pow_pos k
  by_cases hsmall : m < 2 ^ k
  · simp only [shiftNearest, Nat.shiftRight_eq_div_pow, Nat.shiftLeft_eq, Nat.one_mul,
      Nat.div_eq_of_lt hsmall, Nat.zero_mul, Nat.sub_zero, Nat.zero_mod, Nat.zero_ne_one, and_false,
      or_false]
    split <;> omega
  · have hquotient : 1 ≤ m / 2 ^ k := (Nat.one_le_div_iff hpos).mpr (Nat.le_of_not_lt hsmall)
    have hne : shiftNearest m k ≠ 0 := by
      simp only [shiftNearest, Nat.shiftRight_eq_div_pow]
      split <;> omega
    simp only [hne, false_iff]
    omega

theorem inUnits_eq_zero_iff {m : ℕ} {e unit : ℤ} :
    inUnits m e unit = 0 ↔ (m : ℚ) * 2 ^ e ≤ 2 ^ (unit - 1) := by
  have htwo : (2 : ℚ) ^ unit = 2 * 2 ^ (unit - 1) := by
    rw [← zpow_one_add₀ (by norm_num), add_sub_cancel]
  unfold inUnits
  split
  · next hle =>
    rw [Nat.shiftLeft_eq_zero_iff]
    constructor
    · rintro rfl
      rw [Nat.cast_zero, zero_mul]
      positivity
    · intro h
      by_contra hm
      have hone : (1 : ℚ) ≤ m := by exact_mod_cast Nat.pos_of_ne_zero hm
      have hunit : (2 : ℚ) ^ unit ≤ 2 ^ e := zpow_le_zpow_right₀ (by norm_num) hle
      have hpos : (0 : ℚ) < 2 ^ (unit - 1) := by positivity
      have hleast : (2 : ℚ) ^ e ≤ m * 2 ^ e := le_mul_of_one_le_left (by positivity) hone
      linarith
  · next hlt =>
    have hscale : (2 : ℚ) ^ unit = 2 ^ (unit - e).toNat * 2 ^ e := by
      rw [← zpow_natCast, Int.toNat_of_nonneg (by omega), ← zpow_add₀ (by norm_num),
        Int.sub_add_cancel]
    have hpos : (0 : ℚ) < 2 ^ e := by positivity
    rw [shiftNearest_eq_zero_iff]
    constructor
    · intro h
      have hcast : (2 : ℚ) * m ≤ 2 ^ (unit - e).toNat := by exact_mod_cast h
      have hscaled := mul_le_mul_of_nonneg_right hcast hpos.le
      linarith
    · intro h
      have hscaled : (2 * m : ℚ) * 2 ^ e ≤ 2 ^ (unit - e).toNat * 2 ^ e := by linarith
      exact_mod_cast le_of_mul_le_mul_right hscaled hpos

theorem inUnits_lt_of_lt {m n : ℕ} {e unit : ℤ}
    (h : (m : ℚ) * 2 ^ e < (n - 1 / 2) * 2 ^ unit) : inUnits m e unit < n := by
  have herror := two_mul_abs_inUnits_sub_le m e unit
  have habove := le_abs_self ((inUnits m e unit : ℚ) * 2 ^ unit - m * 2 ^ e)
  have hlt : (inUnits m e unit : ℚ) * 2 ^ unit < n * 2 ^ unit := by linarith
  exact_mod_cast lt_of_mul_lt_mul_right hlt (by positivity)

namespace Format

variable {f : Format} {m : ℕ} {e : ℤ} {s : Bool} {x : Number} {q : ℚ}

theorem magnitude_eq_zero_iff (hbits : 0 < f.exponentBits) :
    f.magnitude m e = 0 ↔ (m : ℚ) * 2 ^ e ≤ 2 ^ (f.leastExponent - 1) := by
  by_cases hm : m = 0
  · have hpos : (0 : ℚ) ≤ 2 ^ (f.leastExponent - 1) := by positivity
    simpa [magnitude, hm] using hpos
  have hleast : f.leastExponent ≤ f.unit m e := Int.le_max_left ..
  have hinfinity := infinity_pos hbits
  have hpos := Nat.two_pow_pos (f.precision - 1)
  rw [magnitude_eq hm]
  constructor
  · intro h
    have hsum : (f.unit m e - f.leastExponent).toNat * 2 ^ (f.precision - 1) +
        inUnits m e (f.unit m e) = 0 := by omega
    obtain ⟨hfield, hunits⟩ := Nat.add_eq_zero_iff.mp hsum
    have hunit : f.unit m e = f.leastExponent := by
      have hzero := (Nat.mul_eq_zero.mp hfield).resolve_right hpos.ne'
      omega
    rwa [hunit, inUnits_eq_zero_iff] at hunits
  · intro h
    have hlog : (m.log2 : ℤ) + e ≤ f.leastExponent - 1 :=
      (zpow_le_zpow_iff_right₀ (by norm_num)).mp ((two_pow_log2_add_le e hm).trans h)
    have hunit : f.unit m e = f.leastExponent := by
      unfold unit
      omega
    rw [hunit, inUnits_eq_zero_iff.mpr h, Int.sub_self, Int.toNat_zero, Nat.zero_mul]
    exact Nat.min_zero _

theorem isZero_decode_encode (hbits : 0 < f.exponentBits) (hx : x.Denotes q) :
    (f.decode (f.encode x)).isZero = true ↔ |q| ≤ 2 ^ (f.leastExponent - 1) := by
  obtain ⟨s, m, e, rfl, rfl⟩ := hx
  rw [encode, isZero_decode hbits (magnitude_le_infinity f m e), magnitude_eq_zero_iff hbits,
    abs_mul, abs_signed, abs_of_pos (by positivity)]

theorem exists_denotes_of_encode (hp : 2 ≤ f.precision) (h : (f.decode (f.encode x)).Denotes q) :
    ∃ r, x.Denotes r := by
  cases x with
  | nan =>
      obtain ⟨_, _, _, hnan, -⟩ := h
      cases (decode_quietNan hp).symm.trans hnan
  | infinite s =>
      obtain ⟨_, _, _, hinfinite, -⟩ := h
      cases (decode_infinity f s).symm.trans hinfinite
  | finite s m e => exact ⟨_, Number.denotes_finite s m e⟩

/-- A number is stored as zero exactly when it is half the least positive number of the format or
less. -/
theorem isZero_decode_encode_iff (hp : 2 ≤ f.precision) (hbits : 0 < f.exponentBits) :
    (f.decode (f.encode x)).isZero = true ↔
      ∃ q, x.Denotes q ∧ |q| ≤ 2 ^ (f.leastExponent - 1) := by
  constructor
  · intro h
    obtain ⟨q, hx⟩ := exists_denotes_of_encode hp (Number.isZero_iff.mp h)
    exact ⟨q, hx, (isZero_decode_encode hbits hx).mp h⟩
  · rintro ⟨q, hx, hq⟩
    exact (isZero_decode_encode hbits hx).mpr hq

/-! ## Large numbers -/

theorem le_magnitude (hp : 0 < f.precision) {k : ℕ}
    (h : (2 : ℚ) ^ (f.leastExponent + (f.precision - 1 : ℕ) + k) ≤ m * 2 ^ e) :
    min f.infinity ((k + 1) * 2 ^ (f.precision - 1)) ≤ f.magnitude m e := by
  have hm : m ≠ 0 := by
    rintro rfl
    rw [Nat.cast_zero, zero_mul] at h
    exact absurd h (by positivity : (0 : ℚ) < _).not_ge
  have hlog : f.leastExponent + (f.precision - 1 : ℕ) + k < m.log2 + 1 + e :=
    (zpow_lt_zpow_iff_right₀ (by norm_num)).mp (h.trans_lt (lt_two_pow_log2_add m e))
  have hunit : f.unit m e = e + m.log2 + 1 - f.precision := by
    unfold unit
    omega
  have hhidden := le_inUnits_of_place (f := f) (e := e) hm (by omega)
  have hfield : k ≤ (f.unit m e - f.leastExponent).toNat := by omega
  have hfields := Nat.mul_le_mul_right (2 ^ (f.precision - 1)) hfield
  rw [magnitude_eq hm, Nat.succ_mul]
  omega

theorem exists_le_decode_encode (hp : 0 < f.precision) (hx : x.Denotes q) {k : ℕ}
    (hq : (2 : ℚ) ^ (f.leastExponent + (f.precision - 1 : ℕ) + k) ≤ |q|) :
    (∃ s, f.decode (f.encode x) = .infinite s) ∨
      ∃ r, (f.decode (f.encode x)).Denotes r ∧
        (2 : ℚ) ^ (f.leastExponent + (f.precision - 1 : ℕ) + k) ≤ |r| := by
  obtain ⟨s, m, e, rfl, rfl⟩ := hx
  rw [abs_mul, abs_signed, abs_of_pos (by positivity)] at hq
  rcases exists_le_decode (s := s) (magnitude_le_infinity f m e) (le_magnitude hp hq) with h | h
  · exact .inl ⟨s, h⟩
  · exact .inr h

theorem magnitude_lt_infinity (hp : 0 < f.precision) (hbits : 2 ≤ f.exponentBits)
    (h : (m : ℚ) * 2 ^ e < (2 ^ f.precision - 1 / 2) * 2 ^ f.greatestPlace) :
    f.magnitude m e < f.infinity := by
  by_cases hm : m = 0
  · simpa [magnitude, hm] using infinity_pos (by omega)
  have hfour : 2 ^ 2 ≤ 2 ^ f.exponentBits := Nat.pow_le_pow_right (by decide) hbits
  have hdouble := two_pow_precision hp
  have hpos : (0 : ℚ) < 2 ^ f.greatestPlace := by positivity
  have hlog : (m.log2 : ℤ) + e < f.precision + f.greatestPlace := by
    apply (zpow_lt_zpow_iff_right₀ (show (1 : ℚ) < 2 by norm_num)).mp
    refine (two_pow_log2_add_le e hm).trans_lt (h.trans ?_)
    rw [zpow_add₀ (by norm_num), zpow_natCast]
    exact mul_lt_mul_of_pos_right (by linarith) hpos
  have hunit : f.unit m e ≤ f.greatestPlace := by
    unfold unit greatestPlace at *
    omega
  have hleast : f.leastExponent ≤ f.unit m e := Int.le_max_left ..
  have hunits := f.inUnits_unit_le m e
  suffices hsum : (f.unit m e - f.leastExponent).toNat * 2 ^ (f.precision - 1) +
      inUnits m e (f.unit m e) < f.infinity by
    rw [magnitude_eq hm]
    omega
  rw [infinity_eq]
  have hhidden := Nat.two_pow_pos (f.precision - 1)
  rcases hunit.eq_or_lt with htop | hbelow
  · -- Below the bound nothing carries out of the last place of the greatest number.
    have hcarry : inUnits m e (f.unit m e) < 2 ^ f.precision := by
      rw [htop]
      exact inUnits_lt_of_lt (by exact_mod_cast h)
    have hfield : (f.unit m e - f.leastExponent).toNat + 2 ≤ 2 ^ f.exponentBits - 1 := by
      unfold greatestPlace at htop
      omega
    have hfields := Nat.mul_le_mul_right (2 ^ (f.precision - 1)) hfield
    rw [Nat.add_mul] at hfields
    omega
  · have hfield : (f.unit m e - f.leastExponent).toNat + 3 ≤ 2 ^ f.exponentBits - 1 := by
      unfold greatestPlace at hbelow
      omega
    have hfields := Nat.mul_le_mul_right (2 ^ (f.precision - 1)) hfield
    rw [Nat.add_mul] at hfields
    omega

/-- What is less than half a place above the greatest number is stored as a finite number. -/
theorem exists_denotes_decode_encode (hp : 0 < f.precision) (hbits : 2 ≤ f.exponentBits)
    (hx : x.Denotes q) (hq : |q| < (2 ^ f.precision - 1 / 2) * 2 ^ f.greatestPlace) :
    ∃ r, (f.decode (f.encode x)).Denotes r := by
  obtain ⟨s, m, e, rfl, rfl⟩ := hx
  rw [abs_mul, abs_signed, abs_of_pos (by positivity)] at hq
  rw [encode, decode_of_lt (magnitude_lt_infinity hp hbits hq)]
  split
  · exact ⟨_, Number.denotes_finite _ _ _⟩
  · exact ⟨_, Number.denotes_finite _ _ _⟩

end Format

/-! ## Numbers of 32 and of 64 bits -/

variable {x : Number} {q : ℚ}

theorem Binary64.number_ofNumber_eq (x : Number) :
    (ofNumber x).number = Format.double.decode (Format.double.encode x) := by
  cases x with
  | nan => decide
  | infinite s => cases s <;> decide
  | finite s m e => exact number_ofNumber (Number.denotes_finite s m e)

theorem Binary32.number_ofNumber_eq (x : Number) :
    (ofNumber x).number = Format.single.decode (Format.single.encode x) := by
  cases x with
  | nan => decide
  | infinite s => cases s <;> decide
  | finite s m e => exact number_ofNumber (Number.denotes_finite s m e)

theorem Binary64.isZero_ofNumber_iff :
    (ofNumber x).isZero = true ↔ ∃ q, x.Denotes q ∧ |q| ≤ 2 ^ (-1075 : ℤ) := by
  rw [isZero, number_ofNumber_eq]
  exact Format.isZero_decode_encode_iff (by decide) (by decide)

theorem Binary32.isZero_ofNumber_iff :
    (ofNumber x).isZero = true ↔ ∃ q, x.Denotes q ∧ |q| ≤ 2 ^ (-150 : ℤ) := by
  rw [isZero, number_ofNumber_eq]
  exact Format.isZero_decode_encode_iff (by decide) (by decide)

theorem Number.exists_denotes_mul_iff {x y : Number} {P : ℚ → Prop} :
    (∃ q, (x.mul y).Denotes q ∧ P q) ↔ ∃ a b, x.Denotes a ∧ y.Denotes b ∧ P (a * b) := by
  constructor
  · rintro ⟨q, hq, hP⟩
    obtain ⟨a, b, ha, hb, rfl⟩ := denotes_mul_iff.mp hq
    exact ⟨a, b, ha, hb, hP⟩
  · rintro ⟨a, b, ha, hb, hP⟩
    exact ⟨a * b, ha.mul hb, hP⟩

theorem Binary64.isZero_mul_iff {a b : Binary64} :
    (a * b).isZero = true ↔
      ∃ x y, a.number.Denotes x ∧ b.number.Denotes y ∧ |x * y| ≤ 2 ^ (-1075 : ℤ) :=
  isZero_ofNumber_iff.trans Number.exists_denotes_mul_iff

theorem Binary32.isZero_mul_iff {a b : Binary32} :
    (a * b).isZero = true ↔
      ∃ x y, a.number.Denotes x ∧ b.number.Denotes y ∧ |x * y| ≤ 2 ^ (-150 : ℤ) :=
  isZero_ofNumber_iff.trans Number.exists_denotes_mul_iff

namespace Binary32

variable {a : Binary32} {r : ℚ}

theorem greatestPlace_eq : Format.single.greatestPlace = 104 := by decide

theorem abs_le_of_denotes (h : a.number.Denotes q) : |q| ≤ (2 ^ 24 - 1) * 2 ^ (104 : ℤ) := by
  have hle := Format.abs_le_of_decode (f := .single) (by decide) (by decide) h
  rwa [greatestPlace_eq] at hle

theorem two_pow_le_abs_of_denotes (h : a.number.Denotes q) (hq : q ≠ 0) :
    2 ^ (-149 : ℤ) ≤ |q| :=
  Format.le_abs_of_decode (f := .single) (by decide) h hq

theorem exists_denotes_ofNumber_of_lt (hx : x.Denotes q)
    (hq : |q| < (2 ^ 24 - 1 / 2) * 2 ^ (104 : ℤ)) : ∃ r, (ofNumber x).number.Denotes r := by
  rw [number_ofNumber hx]
  rw [← greatestPlace_eq] at hq
  exact Format.exists_denotes_decode_encode (by decide) (by decide) hx hq

theorem one_le_abs_of_ofNumber (hx : x.Denotes q) (hq : 1 ≤ |q|)
    (h : (ofNumber x).number.Denotes r) : 1 ≤ |r| := by
  have hone : (2 : ℚ) ^ (Format.single.leastExponent + (Format.single.precision - 1 : ℕ) +
      (126 : ℕ)) = 1 := zpow_zero 2
  rw [number_ofNumber hx] at h
  rw [← hone] at hq ⊢
  rcases Format.exists_le_decode_encode (by decide) hx hq with ⟨s, hinfinite⟩ | ⟨r', hr', hle⟩
  · rw [hinfinite] at h
    nomatch h
  · rwa [h.unique hr']

end Binary32

end RasterTensor.Binary
