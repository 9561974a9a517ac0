import RasterTensor.Normalization.Profile
import RasterTensor.Proofs.Binary.Rounding
import RasterTensor.Proofs.Normalization.Finalizers

/-!
# What profiles make of samples

A profile without a scale takes every sample to an integer exactly. The symmetric one rounds, but
by less than what lies between two samples, so it keeps their order and its ends. The elements that
are stored stand for these values, and no cast to one loses anything.
-/

namespace RasterTensor

open Binary

variable {v w : UInt8} {c : Fin 3} {p : Parameters}

theorem abs_toNat_sub_lt {i : ℤ} (v : UInt8) (hi : |i| ≤ 2 ^ 16) :
    |(v.toNat : ℤ) - i| < 2 ^ 24 := by
  have hlt := v.toNat_lt
  rw [abs_le] at hi
  rw [abs_lt]
  omega

theorem denotes_sample (v : UInt8) : (Binary32.ofNat v.toNat).number.Denotes (v.toNat : ℤ) := by
  have habs := abs_toNat_sub_lt v (i := 0) (by norm_num)
  rw [Int.sub_zero] at habs
  exact Binary32.denotes_ofNumber_int (Number.denotes_ofNat v.toNat) habs

namespace Parameters

theorem denotes_affine {i : ℤ} (hscale : p.scale.get c = .ofInt 1)
    (hoffset : p.offset.get c = .ofInt i) (hi : |i| ≤ 2 ^ 16) (v : UInt8) :
    (p.affine c v).number.Denotes (v.toNat - i : ℤ) := by
  have hone := Binary32.denotes_ofNumber_int (Binary64.denotes_ofInt (i := 1) (by norm_num))
    (by norm_num)
  have hstored := Binary32.denotes_ofNumber_int
    (Binary64.denotes_ofInt (hi.trans_lt (by norm_num))) (hi.trans_lt (by norm_num))
  have hrange := abs_toNat_sub_lt v hi
  have hdifference := Binary32.denotes_sub_int (denotes_sample v) hstored hrange
  have hproduct := Binary32.denotes_mul_int hdifference hone (by rwa [mul_one])
  rw [mul_one] at hproduct
  rw [affine, hscale, hoffset]
  exact hproduct

/-! ## The symmetric profile -/

/-- The factor of the symmetric profile in 32 bits. -/
def span : ℚ := 8421505 / 2 ^ 30

/-- The value of a sample before it is rounded. -/
def symmetricValue (v : UInt8) : ℚ := (2 * v.toNat - 255) / 2 * span

theorem denotes_span : (Binary32.ofBinary64 (.ofInt 1 / halfSpan)).number.Denotes span := by
  have hbits : (Binary32.ofBinary64 (.ofInt 1 / halfSpan)).number =
      .finite false 8421505 (-30) := by decide +kernel
  refine ⟨_, _, _, hbits, ?_⟩
  norm_num [span, signed]

theorem denotes_sub_halfSpan (v : UInt8) :
    (Binary32.ofNat v.toNat - .ofBinary64 halfSpan).number.Denotes
      ((2 * v.toNat - 255 : ℤ) * 2 ^ (-1 : ℤ)) := by
  have hoffset : (Binary32.ofBinary64 halfSpan).number.Denotes (255 * 2 ^ (-1 : ℤ)) := by
    have hbits : (Binary32.ofBinary64 halfSpan).number = .finite false 16711680 (-17) := by
      decide +kernel
    refine ⟨_, _, _, hbits, ?_⟩
    norm_num [signed]
  have hexact := (denotes_sample v).sub hoffset
  have hhalves : ((v.toNat : ℤ) : ℚ) - 255 * 2 ^ (-1 : ℤ) =
      ((2 * v.toNat - 255 : ℤ) : ℚ) * 2 ^ (-1 : ℤ) := by
    push_cast
    ring
  have habs : |2 * (v.toNat : ℤ) - 255| < 2 ^ 24 := by
    have hlt := v.toNat_lt
    rw [abs_lt]
    omega
  rw [hhalves] at hexact
  exact Binary32.denotes_ofNumber_exact hexact habs (by norm_num) (by norm_num)

theorem exists_denotes_symmetric (v : UInt8) :
    ∃ r, (symmetric.affine 0 v).number.Denotes r ∧ 2 * |r - symmetricValue v| ≤ 2 ^ (-23 : ℤ) := by
  have hproduct := (denotes_sub_halfSpan v).mul denotes_span
  have hvalue : ((2 * v.toNat - 255 : ℤ) : ℚ) * 2 ^ (-1 : ℤ) * span = symmetricValue v := by
    rw [symmetricValue, zpow_neg_one]
    push_cast
    ring
  have hbelow : |symmetricValue v| < 2 ^ (-23 + 24 : ℤ) := by
    have hlt : (v.toNat : ℚ) ≤ 255 := by exact_mod_cast Nat.le_of_lt_succ v.toNat_lt
    have hnonneg : (0 : ℚ) ≤ v.toNat := Nat.cast_nonneg _
    rw [symmetricValue, span, abs_lt]
    constructor <;> norm_num <;> linarith
  rw [hvalue] at hproduct
  exact Binary32.exists_denotes_ofNumber hproduct hbelow (by norm_num) (by norm_num)

theorem symmetricValue_add_span_le (h : v < w) : symmetricValue v + span ≤ symmetricValue w := by
  have hnext : (v.toNat : ℚ) + 1 ≤ w.toNat := by exact_mod_cast UInt8.lt_iff_toNat_lt.mp h
  rw [symmetricValue, symmetricValue, span]
  linarith

/-- Rounding errs by less than half of what lies between two samples. -/
theorem exists_value_symmetric : ∃ value : UInt8 → ℚ,
    (∀ v, (symmetric.affine 0 v).number.Denotes (value v)) ∧
      (∀ v w, v < w → value v < value w) ∧ ∀ v, -1 ≤ value v ∧ value v ≤ 1 := by
  choose value hvalue hnear using exists_denotes_symmetric
  have hstrict (v w : UInt8) (hlt : v < w) : value v < value w := by
    have hgap := symmetricValue_add_span_le hlt
    have hv := le_abs_self (value v - symmetricValue v)
    have hw := neg_abs_le (value w - symmetricValue w)
    have hnearV := hnear v
    have hnearW := hnear w
    rw [span] at hgap
    norm_num at hnearV hnearW
    linarith
  have hleast : value 0 = -1 := by
    have hbits : (symmetric.affine 0 0).number = .finite true 8388608 (-23) := by decide +kernel
    refine (hvalue 0).unique ⟨_, _, _, hbits, ?_⟩
    norm_num [signed]
  have hgreatest : value 255 = 1 := by
    have hbits : (symmetric.affine 0 255).number = .finite false 8388608 (-23) := by decide +kernel
    refine (hvalue 255).unique ⟨_, _, _, hbits, ?_⟩
    norm_num [signed]
  refine ⟨value, hvalue, hstrict, fun v => ⟨?_, ?_⟩⟩
  · by_cases hzero : 0 = v
    · rw [← hzero, hleast]
    · rw [← hleast]
      exact (hstrict 0 v (UInt8.lt_of_le_of_ne (UInt8.zero_le) hzero)).le
  · have hle : v ≤ 255 := UInt8.le_iff_toNat_le.mpr (Nat.le_of_lt_succ v.toNat_lt)
    by_cases hlast : v = 255
    · rw [hlast, hgreatest]
    · rw [← hgreatest]
      exact (hstrict v 255 (UInt8.lt_of_le_of_ne hle hlast)).le

end Parameters

/-! ## Elements -/

theorem fitsSigned_of_sample {i : ℤ} (hlow : -128 ≤ i) (hhigh : i ≤ 255) :
    fitsSigned 32 i = true := by
  have hhalf : wordCount (32 - 1) = 2147483648 := rfl
  rw [fitsSigned, hhalf, Bool.and_eq_true, decide_eq_true_eq, decide_eq_true_eq]
  omega

namespace ElementType

variable {element : ElementType} {x : Binary32} {word : UInt32} {q r : ℚ}

/-- An element as it is stored and the number that it stands for. -/
def Denotes : ElementType → UInt32 → ℚ → Prop
  | .float32, word, q => (Binary32.mk word).number.Denotes q
  | .int32, word, q => q = integerOfWord 32 word.toNat
  | .quantized8, word, q => q = word.toNat

/-- The nearest integer is one of those that the element type stores. -/
def InRange : ElementType → Binary32 → Prop
  | .float32, _ => True
  | .int32, x => ∃ i, x.number.nearest? = some i ∧ fitsSigned 32 i = true
  | .quantized8, x => ∃ i, x.number.nearest? = some i ∧ fitsUnsigned 8 i = true

theorem Denotes.unique (hq : element.Denotes word q) (hr : element.Denotes word r) : q = r := by
  cases element with
  | float32 => exact Number.Denotes.unique hq hr
  | int32 | quantized8 => exact hq.trans hr.symm

theorem denotes_finalize_int32 {i : ℤ} (h : x.number.Denotes i) (hfits : fitsSigned 32 i = true) :
    int32.InRange x ∧ int32.Denotes (int32.finalize x) i := by
  have hnearest := h.nearest?_eq
  have hvalue := integerOfWord_roundToWord (Number.roundsTo_iff.mpr hnearest) hfits
  exact ⟨⟨i, hnearest, hfits⟩, congrArg Int.cast hvalue.symm⟩

theorem denotes_finalize_quantized8 {n : ℕ} (h : x.number.Denotes n) (hn : n ≤ 255) :
    quantized8.InRange x ∧ quantized8.Denotes (quantized8.finalize x) n := by
  have hnearest := Number.Denotes.nearest?_eq (i := n) h
  have hfits : fitsUnsigned 8 n = true := by
    have hcount : wordCount 8 = 256 := rfl
    rw [fitsUnsigned, hcount, Bool.and_eq_true, decide_eq_true_eq, decide_eq_true_eq]
    omega
  have hvalue : (roundToByte x).toNat = n := by
    have hclamped := toNat_roundToByte (Number.roundsTo_iff.mpr hnearest)
    omega
  refine ⟨⟨n, hnearest, hfits⟩, ?_⟩
  rw [Denotes, finalize, UInt8.toNat_toUInt32, hvalue]

end ElementType

/-! ## All profiles -/

namespace Profile

/-- The values that a profile may give to samples: the samples themselves, the samples moved to be
centered at zero, or, in their order, values from -1 to 1. -/
def Keeps : FrontEnd → ElementType → (UInt8 → ℚ) → Prop
  | .caffe, _, value | _, .quantized8, value => ∀ v, value v = v.toNat
  | _, .int32, value => ∀ v, value v = v.toNat - 128
  | _, .float32, value => (∀ v w, v < w → value v < value w) ∧ ∀ v, -1 ≤ value v ∧ value v ≤ 1

variable {frontEnd : FrontEnd} {element : ElementType} {value : UInt8 → ℚ}

theorem affine_eq (frontEnd : FrontEnd) (element : ElementType) (c : Fin 3) (v : UInt8) :
    (parameters frontEnd element).affine c v = (parameters frontEnd element).affine 0 v := by
  match c with
  | 0 => rfl
  | 1 | 2 => cases frontEnd <;> cases element <;> rfl

theorem exists_keeps (frontEnd : FrontEnd) (element : ElementType) :
    ∃ value, Keeps frontEnd element value ∧
      ∀ c v, ((parameters frontEnd element).affine c v).number.Denotes (value v) := by
  have hidentity (v : UInt8) : (Parameters.identity.affine 0 v).number.Denotes v.toNat := by
    simpa using Parameters.denotes_affine (p := .identity) (c := 0) (i := 0) rfl rfl (by norm_num) v
  have hcentered (v : UInt8) : (Parameters.centered.affine 0 v).number.Denotes (v.toNat - 128) := by
    simpa using
      Parameters.denotes_affine (p := .centered) (c := 0) (i := 128) rfl rfl (by norm_num) v
  obtain ⟨symmetric, hsymmetric, hstrict, hends⟩ := Parameters.exists_value_symmetric
  simp only [affine_eq]
  match frontEnd, element with
  | .caffe, _ => exact ⟨fun v => v.toNat, fun _ => rfl, fun _ => hidentity⟩
  | .tensorflow, .quantized8 | .tflite, .quantized8 =>
      exact ⟨fun v => v.toNat, fun _ => rfl, fun _ => hidentity⟩
  | .tensorflow, .int32 | .tflite, .int32 =>
      exact ⟨fun v => v.toNat - 128, fun _ => rfl, fun _ => hcentered⟩
  | .tensorflow, .float32 | .tflite, .float32 =>
      exact ⟨symmetric, ⟨hstrict, hends⟩, fun _ => hsymmetric⟩

theorem Keeps.injective (h : Keeps frontEnd element value) : Function.Injective value := by
  intro v w heq
  match frontEnd, element with
  | .caffe, _ | .tensorflow, .quantized8 | .tflite, .quantized8 =>
      rw [h v, h w] at heq
      exact UInt8.toNat_inj.mp (by exact_mod_cast heq)
  | .tensorflow, .int32 | .tflite, .int32 =>
      rw [h v, h w, sub_left_inj] at heq
      exact UInt8.toNat_inj.mp (by exact_mod_cast heq)
  | .tensorflow, .float32 | .tflite, .float32 =>
      by_contra hne
      obtain hlt | hlt := UInt8.lt_or_lt_of_ne hne
      · exact (h.1 v w hlt).ne heq
      · exact (h.1 w v hlt).ne' heq

theorem Keeps.denotes_finalize {x : Binary32} (h : Keeps frontEnd element value)
    (hx : x.number.Denotes (value v)) :
    element.InRange x ∧ element.Denotes (element.finalize x) (value v) := by
  have hlast := v.toNat_lt
  match frontEnd, element with
  | _, .float32 => exact ⟨trivial, hx⟩
  | .caffe, .int32 =>
      have hvalue : value v = ((v.toNat : ℤ) : ℚ) := h v
      rw [hvalue] at hx ⊢
      exact ElementType.denotes_finalize_int32 hx (fitsSigned_of_sample (by omega) (by omega))
  | .tensorflow, .int32 | .tflite, .int32 =>
      have hvalue : value v = ((v.toNat - 128 : ℤ) : ℚ) := by simpa using h v
      rw [hvalue] at hx ⊢
      exact ElementType.denotes_finalize_int32 hx (fitsSigned_of_sample (by omega) (by omega))
  | .caffe, .quantized8 | .tensorflow, .quantized8 | .tflite, .quantized8 =>
      rw [h v] at hx ⊢
      exact ElementType.denotes_finalize_quantized8 hx (by omega)

end Profile

end RasterTensor
