import Mathlib.Algebra.Ring.Nat
import Mathlib.Data.List.Basic
import RasterTensor.Tensor.Normalize

/-!
# Elements as bytes

A word of an element survives being laid out in bytes and read again, provided that it fits the
bytes of its element. What normalization makes of a value always fits.
-/

namespace RasterTensor

open Binary

theorem div_mod_of_lt {k n i : Nat} (h : i < n) : (k * n + i) / n = k ∧ (k * n + i) % n = i := by
  rw [Nat.add_comm, Nat.add_mul_div_right _ _ (Nat.zero_lt_of_lt h), Nat.div_eq_of_lt h,
    Nat.add_mul_mod_self_right, Nat.mod_eq_of_lt h]
  exact ⟨Nat.zero_add k, rfl⟩

theorem digits_inj {k k' n i i' : Nat} (hi : i < n) (hi' : i' < n) (h : k * n + i = k' * n + i') :
    k = k' ∧ i = i' := by
  obtain ⟨hquot, hrem⟩ := div_mod_of_lt (k := k) hi
  obtain ⟨hquot', hrem'⟩ := div_mod_of_lt (k := k') hi'
  rw [h] at hquot hrem
  exact ⟨hquot.symm.trans hquot', hrem.symm.trans hrem'⟩

theorem mul_add_lt_mul {k m i n : Nat} (hk : k < m) (hi : i < n) : k * n + i < m * n := by
  have hlast : (k + 1) * n ≤ m * n := Nat.mul_le_mul_right n hk
  rw [Nat.succ_mul] at hlast
  omega

namespace Binary

theorem toNat_byteOf (n i : Nat) : (byteOf n i).toNat = n / 256 ^ i % 256 := by
  simp [byteOf, Nat.shiftRight_eq_div_pow, Nat.pow_mul]

/-- Digits in base 256, from the least significant one up, make the number. -/
theorem foldr_digits (n start size : Nat) :
    (List.range' start size).foldr (fun i k => n / 256 ^ i % 256 + 256 * k) 0 =
      n / 256 ^ start % 256 ^ size := by
  induction size generalizing start with
  | zero => simp [Nat.mod_one]
  | succ size ih =>
      have hpow : 256 ^ (size + 1) = 256 * 256 ^ size := Nat.pow_succ'
      rw [List.range'_succ, List.foldr_cons, ih, hpow, Nat.mod_mul, Nat.pow_succ,
        Nat.div_div_eq_div_mul]

theorem wordAt_of_byteAt {bytes : ByteArray} {start size n : Nat}
    (h : ∀ i < size, byteAt bytes (start + i) = byteOf n i) (hn : n < 256 ^ size) :
    wordAt bytes start size = n := by
  have hdigits := foldr_digits n 0 size
  rw [← List.range_eq_range', Nat.pow_zero, Nat.div_one, Nat.mod_eq_of_lt hn] at hdigits
  rw [wordAt, ← hdigits]
  refine List.foldr_ext _ _ 0 fun i hi k => ?_
  rw [h i (List.mem_range.mp hi), toNat_byteOf]

end Binary

namespace Tensor

@[simp] theorem size_bytes (t : Tensor) : t.bytes.size = t.words.size * t.element.size := by
  rw [bytes, size_bytesOfFn]

theorem byteAt_bytes (t : Tensor) {k i : Nat} (hk : k < t.words.size) (hi : i < t.element.size) :
    byteAt t.bytes (k * t.element.size + i) = byteOf (t.words.getD k 0).toNat i := by
  have hlast : (k + 1) * t.element.size ≤ t.words.size * t.element.size :=
    Nat.mul_le_mul_right _ hk
  obtain ⟨hdiv, hmod⟩ := div_mod_of_lt (k := k) hi
  rw [bytes, byteAt_bytesOfFn _ (by rw [Nat.succ_mul] at hlast; omega), hdiv, hmod]

/-- Every word fits the bytes of an element. -/
def Fits (t : Tensor) : Prop := ∀ w ∈ t.words, w.toNat < 256 ^ t.element.size

theorem Fits.wordsOfBytes_bytes {t : Tensor} (h : t.Fits) :
    wordsOfBytes t.element t.bytes = t.words := by
  have hsize : t.bytes.size / t.element.size = t.words.size := by
    rw [size_bytes, Nat.mul_div_cancel _ t.element.size_pos]
  apply Array.ext
  · rw [wordsOfBytes, Array.size_ofFn, hsize]
  · intro k hk hk'
    have hword : t.words.getD k 0 = t.words[k] := by simp [Array.getD, hk']
    have hat := wordAt_of_byteAt (fun i hi => t.byteAt_bytes hk' hi)
      (hword ▸ h _ (Array.getElem_mem hk'))
    simp [wordsOfBytes, hat, hword]

end Tensor

theorem ElementType.finalize_lt (e : ElementType) (x : Binary32) :
    (e.finalize x).toNat < 256 ^ e.size := by
  cases e with
  | float32 => exact (ElementType.finalize .float32 x).toNat_lt
  | int32 => exact (ElementType.finalize .int32 x).toNat_lt
  | quantized8 => simpa [finalize, size] using (roundToByte x).toNat_lt

end RasterTensor
