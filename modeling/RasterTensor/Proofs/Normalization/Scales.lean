import RasterTensor.Proofs.Binary.Limits
import RasterTensor.Proofs.Normalization.Entries
import RasterTensor.Proofs.Normalization.Pointwise
import RasterTensor.Proofs.Normalization.Samples

/-!
# Scales in 32 bits

The scales of accepted parameters are not zero, but they are numbers of 64 bits, and samples are
multiplied in 32 bits. A scale that is too small for 32 bits takes all samples of its channel to
zero there, and no other scale does.
-/

namespace RasterTensor

open Binary Document

/-! ## Differences of samples and an offset -/

section differences

variable {o : Binary32} {t r : ℚ} {v : UInt8}

/-- No sample is so far from a finite number that the difference becomes infinite. -/
theorem exists_denotes_sample_sub (ho : o.number.Denotes t) (v : UInt8) :
    ∃ r, (Binary32.ofNat v.toNat - o).number.Denotes r := by
  have hv : |((v.toNat : ℤ) : ℚ)| ≤ 255 := by
    rw [abs_of_nonneg (by positivity)]
    exact_mod_cast Nat.le_of_lt_succ v.toNat_lt
  have hsmall : (255 : ℚ) < 1 / 2 * 2 ^ (104 : ℤ) := by norm_num
  have hdifference := abs_sub ((v.toNat : ℤ) : ℚ) t
  have hgreatest := Binary32.abs_le_of_denotes ho
  exact Binary32.exists_denotes_ofNumber_of_lt ((denotes_sample v).sub ho) (by linarith)

theorem exists_denotes_of_sample_sub (h : (Binary32.ofNat v.toNat - o).number.Denotes r) :
    ∃ t, o.number.Denotes t := by
  have hdecoded : (Format.single.decode (Format.single.encode
      ((Binary32.ofNat v.toNat).number.sub o.number))).Denotes r := by
    rw [← Binary32.number_ofNumber_eq]
    exact h
  obtain ⟨q, hq⟩ := Format.exists_denotes_of_encode (by decide) hdecoded
  exact Number.exists_denotes_of_sub hq

/-- Of the least and the greatest sample, one is away from any number by one at least. -/
theorem exists_one_le_abs_sub (t : ℚ) : ∃ v : UInt8, 1 ≤ |((v.toNat : ℤ) : ℚ) - t| := by
  by_cases ht : 1 ≤ t
  · refine ⟨0, ?_⟩
    simpa [abs_of_nonneg (zero_le_one.trans ht)] using ht
  · have hgreatest : (255 : UInt8).toNat = 255 := rfl
    refine ⟨255, le_abs.mpr (.inl ?_)⟩
    rw [hgreatest]
    norm_num
    linarith

end differences

namespace Parameters

variable {p : Parameters} {c : Fin 3}

/-- Every sample of a channel becomes zero. -/
def Collapses (p : Parameters) (c : Fin 3) : Prop := ∀ v, (p.affine c v).isZero = true

theorem collapses_of_isZero (hscale : (Binary32.ofBinary64 (p.scale.get c)).isZero = true)
    (hoffset : (Binary32.ofBinary64 (p.offset.get c)).number.isFinite = true) :
    p.Collapses c := by
  intro v
  obtain ⟨t, ht⟩ := Number.isFinite_iff.mp hoffset
  obtain ⟨r, hr⟩ := exists_denotes_sample_sub ht v
  refine Binary32.isZero_mul_iff.mpr ⟨r, 0, hr, Number.isZero_iff.mp hscale, ?_⟩
  rw [mul_zero, abs_zero]
  positivity

theorem Collapses.isFinite_offset (h : p.Collapses c) :
    (Binary32.ofBinary64 (p.offset.get c)).number.isFinite = true := by
  obtain ⟨_, _, hdifference, -, -⟩ := Binary32.isZero_mul_iff.mp (h 0)
  exact Number.isFinite_iff.mpr (exists_denotes_of_sample_sub hdifference)

-- A sample that is away from the offset by one keeps every other scale above half the least number.
theorem Collapses.isZero_scale (h : p.Collapses c) :
    (Binary32.ofBinary64 (p.scale.get c)).isZero = true := by
  obtain ⟨t, ht⟩ := Number.isFinite_iff.mp h.isFinite_offset
  obtain ⟨v, hv⟩ := exists_one_le_abs_sub t
  obtain ⟨r, s, hr, hs, hsmall⟩ := Binary32.isZero_mul_iff.mp (h v)
  have hone := Binary32.one_le_abs_of_ofNumber ((denotes_sample v).sub ht) hv hr
  by_cases hzero : s = 0
  · exact Number.isZero_iff.mpr (hzero ▸ hs)
  · have hleast := Binary32.two_pow_le_abs_of_denotes hs hzero
    have hproduct : (2 : ℚ) ^ (-149 : ℤ) ≤ |r * s| := by
      rw [abs_mul]
      exact hleast.trans (le_mul_of_one_le_left (abs_nonneg s) hone)
    have hlt : (2 : ℚ) ^ (-150 : ℤ) < 2 ^ (-149 : ℤ) := by norm_num
    exact absurd hsmall (hlt.trans_le hproduct).not_ge

theorem collapses_iff :
    p.Collapses c ↔ (Binary32.ofBinary64 (p.scale.get c)).isZero = true ∧
      (Binary32.ofBinary64 (p.offset.get c)).number.isFinite = true :=
  ⟨fun h => ⟨h.isZero_scale, h.isFinite_offset⟩, fun h => collapses_of_isZero h.1 h.2⟩

theorem Collapses.isZero_get (h : p.Collapses c) {image : PixelBuffer} {values : Grid Binary32}
    (hvalues : p.apply image = .ok values) {y x : Nat} (hy : y < image.height)
    (hx : x < image.width) : (values.get y x c).isZero = true := by
  obtain ⟨-, -, hget⟩ := apply_eq_ok hvalues
  rw [hget y x c hy hx]
  exact h _

/-- Parameters that are accepted, whichever way they are made. -/
inductive Accepted : Parameters → Prop
  | fields {p : Parameters} {fields : Fields} (h : ofFields fields = .ok p) : Accepted p
  | arguments {p : Parameters} {arguments : Entries} (h : ofArguments arguments = .ok p) :
      Accepted p
  | meanAndDeviation {p : Parameters} {mean deviation divisor swap : Value}
      (h : ofMeanAndDeviation mean deviation divisor swap = .ok p) : Accepted p

theorem Accepted.exists_fields (h : p.Accepted) : ∃ fields, ofFields fields = .ok p := by
  cases h with
  | fields h => exact ⟨_, h⟩
  | arguments h =>
      simp only [ofArguments, bind_eq_ok] at h
      obtain ⟨_, _, h⟩ := h
      exact ⟨_, h⟩
  | meanAndDeviation h =>
      simp only [ofMeanAndDeviation, bind_eq_ok] at h
      obtain ⟨_, _, h⟩ := h
      split at h
      · cases h
      · simp only [bind_eq_ok] at h
        obtain ⟨_, _, _, _, _, _, _, _, h⟩ := h
        exact ⟨_, h⟩

/-- The scales of accepted parameters are not zero in 64 bits. In 32 bits, where samples are
multiplied, a scale of `2 ^ (-150)` or less is zero. Such a scale with a finite offset, and nothing
else, takes every sample of a channel to zero, in all images. -/
theorem scale_in_arithmetic (h : p.Accepted) (c : Fin 3) :
    (p.scale.get c).isZero = false ∧
      ((Binary32.ofBinary64 (p.scale.get c)).isZero = true ↔
        ∃ q, (p.scale.get c).number.Denotes q ∧ q ≠ 0 ∧ |q| ≤ 2 ^ (-150 : ℤ)) ∧
      (p.Collapses c ↔
        (Binary32.ofBinary64 (p.scale.get c)).isZero = true ∧
          (Binary32.ofBinary64 (p.offset.get c)).number.isFinite = true) ∧
      (p.Collapses c → ∀ image values, p.apply image = .ok values →
        ∀ y x, y < image.height → x < image.width → (values.get y x c).isZero = true) := by
  obtain ⟨fields, hfields⟩ := h.exists_fields
  have hscale := isZero_scale_of_ofFields hfields c
  refine ⟨hscale, ?_, collapses_iff, fun hcollapses _ _ hvalues _ _ hy hx => ?_⟩
  · rw [Binary32.ofBinary64, Binary32.isZero_ofNumber_iff]
    constructor
    · rintro ⟨q, hq, hle⟩
      exact ⟨q, hq, hq.isZero_eq_false_iff.mp hscale, hle⟩
    · rintro ⟨q, hq, -, hle⟩
      exact ⟨q, hq, hle⟩
  · exact hcollapses.isZero_get hvalues hy hx

def Fields.uniform (scale : Binary64) : Fields :=
  { scale := .tuple [.float scale, .float scale, .float scale] }

theorem ofFields_uniform (scale : Binary64) (h : scale.isZero = false) :
    ofFields (.uniform scale) = .ok ⟨.all scale, .all (.ofInt 0), false, 0, 255⟩ := by
  have hlists : ofFields (.uniform scale) =
      ofLists [scale, scale, scale] [.ofInt 0, .ofInt 0, .ofInt 0] false 0 255 := rfl
  rw [hlists, ofLists_eq_ok_iff]
  have hscales : ∀ s ∈ (PerChannel.all scale).toList, s.isZero = false := by
    simpa [PerChannel.toList, PerChannel.all] using h
  exact ⟨⟨rfl, rfl, PerChannel.forall_mem_toList.mp hscales⟩, rfl, rfl, rfl, by decide⟩

/-- The float nearest to `10 ^ (-50)`. -/
def tiny : Binary64 := ⟨0x358dee7a4ad4b81f⟩

theorem scale_in_arithmetic_tiny :
    ofFields (.uniform tiny) = .ok ⟨.all tiny, .all (.ofInt 0), false, 0, 255⟩ ∧
      Collapses ⟨.all tiny, .all (.ofInt 0), false, 0, 255⟩ 1 := by
  have haccepted := ofFields_uniform tiny (by decide)
  obtain ⟨-, -, hcollapses, -⟩ := scale_in_arithmetic (.fields haccepted) 1
  exact ⟨haccepted, hcollapses.mpr ⟨by decide +kernel, by decide +kernel⟩⟩

/-- An accepted scale can be zero in 32 bits. -/
theorem not_forall_isZero_scale_eq_false :
    ¬ ∀ fields p, ofFields fields = .ok p →
      ∀ c, (Binary32.ofBinary64 (p.scale.get c)).isZero = false := by
  intro hall
  have hzero : (Binary32.ofBinary64 tiny).isZero = true := by decide +kernel
  have hnonzero : (Binary32.ofBinary64 tiny).isZero = false :=
    hall _ _ (ofFields_uniform tiny (by decide)) 0
  rw [hzero] at hnonzero
  cases hnonzero

end Parameters

end RasterTensor
