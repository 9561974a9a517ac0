import RasterTensor.Proofs.Binary.Floors

/-!
# Integers among the numbers

A number passes for an integer exactly when it denotes one, and then that is what is left of it when
its fraction is dropped.
-/

namespace RasterTensor.Binary

variable {x : Number} {i : ℤ}

theorem signed_shiftRight {m k : ℕ} (s : Bool) (h : m >>> k <<< k = m) :
    signed s (m >>> k) * 2 ^ k = signed s m := by
  have hpow : (2 ^ k : ℤ) = signed false (2 ^ k) := by simp [signed]
  rw [hpow, signed_mul, Bool.xor_false, ← Nat.shiftLeft_eq, h]

theorem shiftLeft_shiftRight_of_signed {m k : ℕ} {s : Bool} (h : i * 2 ^ k = signed s m) :
    m >>> k <<< k = m := by
  have habs : i.natAbs * 2 ^ k = m := by
    have hnat := congrArg Int.natAbs h
    rw [Int.natAbs_mul, Int.natAbs_pow] at hnat
    cases s <;> simpa [signed] using hnat
  rw [Nat.shiftRight_eq_div_pow, Nat.shiftLeft_eq]
  exact Nat.div_mul_cancel ⟨i.natAbs, by rw [Nat.mul_comm, habs]⟩

namespace Number

theorem denotes_int_iff {s : Bool} {m : ℕ} {e : ℤ} (he : e < 0) :
    (finite s m e).Denotes i ↔ i * 2 ^ (-e).toNat = signed s m := by
  have hpow : (2 : ℚ) ^ e * 2 ^ (-e).toNat = 1 := by
    rw [← zpow_natCast, Int.toNat_of_nonneg (by omega), ← zpow_add₀ (by norm_num),
      Int.add_right_neg, zpow_zero]
  constructor
  · rintro ⟨s', m', e', heq, hi⟩
    cases heq
    have hcast : (i : ℚ) * 2 ^ (-e).toNat = signed s m := by
      rw [hi, mul_assoc, hpow, mul_one]
    exact_mod_cast hcast
  · intro h
    refine ⟨s, m, e, rfl, ?_⟩
    rw [← h, Int.cast_mul, Int.cast_pow, Int.cast_ofNat, mul_assoc, mul_comm ((2 : ℚ) ^ _), hpow,
      mul_one]

theorem Denotes.truncate?_eq (h : x.Denotes i) : x.isInteger = true ∧ x.truncate? = some i := by
  obtain ⟨s, m, e, rfl, hi⟩ := id h
  by_cases he : 0 ≤ e
  · rw [← cast_signed_shiftLeft s m he] at hi
    have hsame : i = signed s (m <<< e.toNat) := by exact_mod_cast hi
    simp [isInteger, truncate?, he, hsame]
  · have hscaled := (denotes_int_iff (by omega)).mp h
    have hwhole := shiftLeft_shiftRight_of_signed hscaled
    have hsame : signed s (m >>> (-e).toNat) = i := by
      apply Int.eq_of_mul_eq_mul_right (by positivity : (2 ^ (-e).toNat : ℤ) ≠ 0)
      rw [signed_shiftRight s hwhole, hscaled]
    simp [isInteger, truncate?, he, hwhole, hsame]

theorem exists_denotes_of_isInteger (h : x.isInteger = true) : ∃ i : ℤ, x.Denotes i := by
  cases x with
  | finite s m e =>
      by_cases he : 0 ≤ e
      · refine ⟨signed s (m <<< e.toNat), s, m, e, rfl, cast_signed_shiftLeft s m he⟩
      · have hwhole : m >>> (-e).toNat <<< (-e).toNat = m := by simpa [isInteger, he] using h
        exact ⟨_, (denotes_int_iff (by omega)).mpr (signed_shiftRight s hwhole)⟩
  | _ => cases h

theorem isInteger_iff : x.isInteger = true ↔ ∃ i : ℤ, x.Denotes i :=
  ⟨exists_denotes_of_isInteger, fun ⟨_, h⟩ => h.truncate?_eq.1⟩

end Number

end RasterTensor.Binary
