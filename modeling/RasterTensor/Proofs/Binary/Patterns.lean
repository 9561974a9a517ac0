import RasterTensor.Proofs.Binary.Rounding

/-!
# What the patterns of a format stand for

The patterns of a format below infinity are its finite numbers, with zero first and larger ones
behind smaller ones. Infinity follows, and then the patterns that stand for no number.
-/

namespace RasterTensor.Binary.Format

variable {f : Format} {m bits fraction : ℕ} {e : ℤ} {s : Bool} {q : ℚ}

theorem infinity_pos (hbits : 0 < f.exponentBits) : 0 < f.infinity := by
  have htwo : 1 < 2 ^ f.exponentBits := Nat.one_lt_two_pow hbits.ne'
  rw [infinity_eq]
  exact Nat.mul_pos (by omega) (Nat.two_pow_pos _)

theorem decode_infinity_add (s : Bool) (hfraction : fraction < 2 ^ (f.precision - 1)) :
    f.decode (f.withSign s (f.infinity + fraction)) =
      if fraction = 0 then .infinite s else .nan := by
  have hpos := Nat.two_pow_pos (f.precision - 1)
  have hsign : f.infinity + fraction < f.signBit := by
    have hnext := Nat.two_pow_pos f.exponentBits
    rw [infinity_eq, signBit_eq, Nat.add_comm _ f.exponentBits, Nat.pow_add, Nat.sub_mul,
      Nat.one_mul]
    have hle := Nat.le_mul_of_pos_left (2 ^ (f.precision - 1)) hnext
    omega
  have hdiv : (f.infinity + fraction) / 2 ^ (f.precision - 1) = 2 ^ f.exponentBits - 1 := by
    rw [infinity_eq, Nat.mul_comm, Nat.mul_add_div hpos, Nat.div_eq_of_lt hfraction, Nat.add_zero]
  have hmod : (f.infinity + fraction) % 2 ^ (f.precision - 1) = fraction := by
    rw [infinity_eq, Nat.mul_comm, Nat.mul_add_mod, Nat.mod_eq_of_lt hfraction]
  simp only [decode, withSign_and_signBit hsign, withSign_mod_signBit hsign,
    Nat.shiftRight_eq_div_pow, Nat.shiftLeft_eq, Nat.one_mul, hdiv, hmod, if_true]

theorem decode_infinity (f : Format) (s : Bool) :
    f.decode (f.withSign s f.infinity) = .infinite s :=
  decode_infinity_add s (Nat.two_pow_pos _)

theorem decode_quietNan (hp : 2 ≤ f.precision) : f.decode f.quietNan = .nan := by
  have hfraction : 1 <<< (f.precision - 2) < 2 ^ (f.precision - 1) := by
    rw [Nat.shiftLeft_eq, Nat.one_mul]
    exact Nat.pow_lt_pow_right (by decide) (by omega)
  refine (decode_infinity_add false hfraction).trans (if_neg ?_)
  simp [Nat.shiftLeft_eq]

/-- The number that a pattern below infinity stands for, by the fields of the pattern. -/
theorem decode_of_lt (h : bits < f.infinity) :
    f.decode (f.withSign s bits) =
      if bits / 2 ^ (f.precision - 1) = 0 then
        .finite s (bits % 2 ^ (f.precision - 1)) f.leastExponent
      else .finite s (bits % 2 ^ (f.precision - 1) + 2 ^ (f.precision - 1))
        (f.leastExponent + (bits / 2 ^ (f.precision - 1) : ℕ) - 1) := by
  have hpos := Nat.two_pow_pos (f.precision - 1)
  have hfield : bits / 2 ^ (f.precision - 1) < 2 ^ f.exponentBits - 1 := by
    rw [infinity_eq] at h
    exact (Nat.div_lt_iff_lt_mul hpos).mpr h
  rw [← decode_withSign (Nat.mod_lt bits hpos) hfield, Nat.div_add_mod']

theorem isZero_decode (hbits : 0 < f.exponentBits) (h : bits ≤ f.infinity) :
    (f.decode (f.withSign s bits)).isZero = true ↔ bits = 0 := by
  have hdivision := Nat.div_add_mod' bits (2 ^ (f.precision - 1))
  have hpos := Nat.two_pow_pos (f.precision - 1)
  rcases h.eq_or_lt with rfl | hlt
  · simp [decode_infinity, Number.isZero, (infinity_pos hbits).ne']
  · rw [decode_of_lt hlt]
    split
    · next hfield =>
      rw [Number.isZero_finite]
      rw [hfield] at hdivision
      omega
    · next hfield =>
      rw [Number.isZero_finite]
      have hne : bits ≠ 0 := by
        rintro rfl
        simp at hfield
      omega

theorem exists_le_decode {k : ℕ} (h : bits ≤ f.infinity)
    (hk : min f.infinity ((k + 1) * 2 ^ (f.precision - 1)) ≤ bits) :
    f.decode (f.withSign s bits) = .infinite s ∨
      ∃ r, (f.decode (f.withSign s bits)).Denotes r ∧
        (2 : ℚ) ^ (f.leastExponent + (f.precision - 1 : ℕ) + k) ≤ |r| := by
  rcases h.eq_or_lt with rfl | hlt
  · exact .inl (decode_infinity f s)
  · have hpos := Nat.two_pow_pos (f.precision - 1)
    have hfield : k + 1 ≤ bits / 2 ^ (f.precision - 1) :=
      (Nat.le_div_iff_mul_le hpos).mpr (by omega)
    rw [decode_of_lt hlt, if_neg (by omega)]
    refine .inr ⟨_, Number.denotes_finite _ _ _, ?_⟩
    have hsignificand : (2 : ℚ) ^ (f.precision - 1) ≤
        (bits % 2 ^ (f.precision - 1) + 2 ^ (f.precision - 1) : ℕ) := by
      exact_mod_cast Nat.le_add_left ..
    rw [abs_mul, abs_signed, abs_of_pos (by positivity)]
    calc (2 : ℚ) ^ (f.leastExponent + (f.precision - 1 : ℕ) + k)
        = 2 ^ (f.precision - 1) * 2 ^ (f.leastExponent + k) := by
          rw [add_right_comm, add_comm, zpow_add₀ (by norm_num), zpow_natCast]
      _ ≤ _ := mul_le_mul hsignificand (zpow_le_zpow_right₀ (by norm_num) (by omega))
          (by positivity) (by positivity)

/-! ## The least and the greatest number -/

/-- The exponent of the last place of the greatest number. -/
def greatestPlace (f : Format) : ℤ := f.leastExponent + (2 ^ f.exponentBits : ℕ) - 3

theorem exponent_of_decode (hbits : 2 ≤ f.exponentBits) (h : f.decode bits = .finite s m e) :
    f.leastExponent ≤ e ∧ e ≤ f.greatestPlace := by
  have hfour : 2 ^ 2 ≤ 2 ^ f.exponentBits := Nat.pow_le_pow_right (by decide) hbits
  have hfield : bits % f.signBit / 2 ^ (f.precision - 1) < 2 ^ f.exponentBits := by
    have hmagnitude := Nat.mod_lt bits (Nat.zero_lt_of_lt f.infinity_lt_signBit)
    rw [signBit_eq, Nat.pow_add] at hmagnitude
    exact Nat.div_lt_of_lt_mul (by rwa [signBit_eq, Nat.pow_add])
  unfold greatestPlace
  simp only [decode, Nat.shiftRight_eq_div_pow, Nat.shiftLeft_eq, Nat.one_mul] at h
  generalize bits % f.signBit / 2 ^ (f.precision - 1) = field at h hfield
  split at h
  · split at h <;> cases h
  · split at h
    · cases h
      omega
    · cases h
      omega

theorem le_abs_of_decode (hbits : 2 ≤ f.exponentBits) (h : (f.decode bits).Denotes q)
    (hq : q ≠ 0) : (2 : ℚ) ^ f.leastExponent ≤ |q| := by
  obtain ⟨s, m, e, hdecode, rfl⟩ := h
  have hleast := (exponent_of_decode hbits hdecode).1
  have hm : m ≠ 0 := by
    rintro rfl
    simp at hq
  have hone : (1 : ℚ) ≤ m := by exact_mod_cast Nat.pos_of_ne_zero hm
  rw [abs_mul, abs_signed, abs_of_pos (by positivity)]
  exact (zpow_le_zpow_right₀ (by norm_num) hleast).trans
    (le_mul_of_one_le_left (by positivity) hone)

theorem abs_le_of_decode (hp : 0 < f.precision) (hbits : 2 ≤ f.exponentBits)
    (h : (f.decode bits).Denotes q) : |q| ≤ (2 ^ f.precision - 1) * 2 ^ f.greatestPlace := by
  obtain ⟨s, m, e, hdecode, rfl⟩ := h
  have hgreatest := (exponent_of_decode hbits hdecode).2
  have hm : (m : ℚ) + 1 ≤ 2 ^ f.precision := by exact_mod_cast (lt_of_decode hp hdecode).1
  rw [abs_mul, abs_signed, abs_of_pos (by positivity)]
  exact mul_le_mul (by linarith) (zpow_le_zpow_right₀ (by norm_num) hgreatest) (by positivity)
    (by linarith)

end RasterTensor.Binary.Format
