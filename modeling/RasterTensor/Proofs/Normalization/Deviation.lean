import RasterTensor.Proofs.Binary.Limits
import RasterTensor.Proofs.Normalization.Entries

/-!
# Parameters from means and deviations

The scale of a channel is the reciprocal of its deviation times the divisor. A divisor of zero is
refused, and so is a scale of zero, but a deviation whose product with the divisor is stored as zero
makes the reciprocal fail with a division by zero.
-/

namespace RasterTensor.Parameters

open Binary Document

variable {d : Binary64} {means deviations scales offsets : List Binary64} {mean deviation : Value}

/-- The product of a divisor that is not zero and one of the deviations is too small for 64 bits. -/
def Vanishes (d : Binary64) (deviations : List Binary64) : Prop :=
  ∃ x, d.number.Denotes x ∧ x ≠ 0 ∧
    ∃ s ∈ deviations, ∃ y, s.number.Denotes y ∧ |x * y| ≤ 2 ^ (-1075 : ℤ)

theorem vanishes_iff :
    Vanishes d deviations ↔ d.isZero = false ∧ ∃ s ∈ deviations, (d * s).isZero = true := by
  constructor
  · rintro ⟨x, hx, hne, s, hs, y, hy, hle⟩
    exact ⟨hx.isZero_eq_false_iff.mpr hne, s, hs, Binary64.isZero_mul_iff.mpr ⟨x, y, hx, hy, hle⟩⟩
  · rintro ⟨hd, s, hs, hzero⟩
    obtain ⟨x, y, hx, hy, hle⟩ := Binary64.isZero_mul_iff.mp hzero
    exact ⟨x, hx, hx.isZero_eq_false_iff.mp hd, s, hs, y, hy, hle⟩

/-! ## Each step -/

theorem inverseScale_float (d s : Binary64) :
    inverseScale d (.float s) =
      if (d * s).isZero then .error .divisionByZero else .ok (.ofInt 1 / (d * s)) := rfl

theorem mapM_inverseScale (d : Binary64) (deviations : List Binary64) :
    (deviations.map Value.float).mapM (inverseScale d) =
      if ∃ s ∈ deviations, (d * s).isZero = true then .error .divisionByZero
      else .ok (deviations.map fun s => .ofInt 1 / (d * s)) := by
  induction deviations with
  | nil => rfl
  | cons s rest ih =>
      rw [List.map_cons, List.mapM_cons, inverseScale_float, ih]
      cases hs : (d * s).isZero with
      | true =>
          rw [if_pos rfl]
          exact (if_pos ⟨s, List.mem_cons_self, hs⟩).symm
      | false =>
          simp only [List.mem_cons, exists_eq_or_imp, hs, Bool.false_eq_true, false_or, if_false]
          split <;> rfl

theorem mapM_scaledMean (d : Binary64) (means : List Binary64) :
    (means.map Value.float).mapM (scaledMean d) = .ok (means.map (· * d)) := by
  rw [List.mapM_map]
  exact List.mapM_pure

theorem readFloats_tuple (xs : List Binary64) : readFloats (.tuple (xs.map .float)) = .ok xs :=
  readFloats_of_members rfl

theorem ofFields_tuples (scales offsets : List Binary64) (swap : Value) :
    ofFields { scale := .tuple (scales.map .float), offset := .tuple (offsets.map .float), swap } =
      ofLists scales offsets swap.isTrue 0 255 := by
  simp only [ofFields, readFloats_tuple, liftM_coercion_ok, ok_bind]
  rfl

/-! ## The outcome -/

section outcome

variable (hmean : mean.members = .ok (means.map .float))
  (hdeviation : deviation.members = .ok (deviations.map .float)) (swap : Value)

include hmean hdeviation

theorem ofMeanAndDeviation_eq :
    ofMeanAndDeviation mean deviation (.float d) swap =
      if d.isZero then .error .zeroDivisor
      else if ∃ s ∈ deviations, (d * s).isZero = true then .error .divisionByZero
      else
        ofLists (deviations.map fun s => .ofInt 1 / (d * s)) (means.map (· * d)) swap.isTrue 0
          255 := by
  have hdivisor : (Value.float d).toFloat = .ok d := rfl
  rw [ofMeanAndDeviation, hdivisor, hmean, hdeviation]
  simp only [liftM_coercion_ok, ok_bind, mapM_inverseScale, mapM_scaledMean]
  split
  · rfl
  · split
    · rfl
    · exact ofFields_tuples _ _ _

/-- Floats make parameters, or are refused as settings, unless the product of the divisor and a
deviation vanishes. Then there is a division by zero, which is no failure of settings. -/
theorem ofMeanAndDeviation_outcome :
    (∀ p, ofMeanAndDeviation mean deviation (.float d) swap = .ok p ↔
      d.isZero = false ∧ ¬ Vanishes d deviations ∧
        p.ConsistsOf (deviations.map fun s => .ofInt 1 / (d * s)) (means.map (· * d)) ∧
          p.swap = swap.isTrue ∧ p.low = 0 ∧ p.high = 255) ∧
      (¬ Vanishes d deviations →
        (∃ p, ofMeanAndDeviation mean deviation (.float d) swap = .ok p) ∨
          ∃ f, ofMeanAndDeviation mean deviation (.float d) swap = .error f ∧
            f.kind? = some .settings) ∧
      (Vanishes d deviations →
        ofMeanAndDeviation mean deviation (.float d) swap = .error .divisionByZero ∧
          Failure.divisionByZero.kind? = none) := by
  have hrange : (0 : Int) ≤ 255 := by decide
  rw [ofMeanAndDeviation_eq hmean hdeviation, vanishes_iff]
  cases hd : d.isZero with
  | true => simp [Failure.kind?]
  | false =>
      by_cases hzero : ∃ s ∈ deviations, (d * s).isZero = true
      · simp [hzero, Failure.kind?]
      · simp only [hzero, Bool.false_eq_true, if_false, and_false, not_false_eq_true, true_and,
          false_implies, and_true, forall_const]
        refine ⟨fun p => ?_, ?_⟩
        · rw [ofLists_eq_ok_iff]
          simp only [hrange, and_true]
        · have hends := ends_ofLists (deviations.map fun s => .ofInt 1 / (d * s))
            (means.map (· * d)) swap.isTrue hrange
          cases hresult : ofLists (deviations.map fun s => .ofInt 1 / (d * s)) (means.map (· * d))
              swap.isTrue 0 255 with
          | ok p => exact .inl ⟨p, rfl⟩
          | error f => exact .inr ⟨f, rfl, hends.of_error hresult⟩

end outcome

/-- A deviation of zero among others is a division by zero, and deviations of one are accepted. -/
theorem ofMeanAndDeviation_outcome_zeroDeviation :
    Vanishes (.ofInt 1) [.ofInt 0, .ofInt 1, .ofInt 1] ∧
      ofMeanAndDeviation (.tuple (List.map .float [.ofInt 0, .ofInt 0, .ofInt 0]))
        (.list (List.map .float [.ofInt 0, .ofInt 1, .ofInt 1])) (.float (.ofInt 1))
          (.bool false) = .error .divisionByZero ∧
      ofMeanAndDeviation (.tuple (List.map .float [.ofInt 0, .ofInt 0, .ofInt 0]))
        (.list (List.map .float [.ofInt 1, .ofInt 1, .ofInt 1])) (.float (.ofInt 1))
          (.bool false) =
        .ok ⟨.all (.ofInt 1), .all (.ofInt 0), false, 0, 255⟩ := by
  have hvanishes : Vanishes (.ofInt 1) [.ofInt 0, .ofInt 1, .ofInt 1] :=
    vanishes_iff.mpr ⟨by decide, .ofInt 0, List.mem_cons_self, by decide⟩
  have hremains : ¬ Vanishes (.ofInt 1) [.ofInt 1, .ofInt 1, .ofInt 1] := by
    rw [vanishes_iff]
    decide
  refine ⟨hvanishes, ((ofMeanAndDeviation_outcome rfl rfl (.bool false)).2.2 hvanishes).1, ?_⟩
  rw [(ofMeanAndDeviation_outcome rfl rfl (.bool false)).1]
  exact ⟨by decide, hremains, ⟨by decide, by decide, by decide⟩, rfl, rfl, rfl⟩

/-- Floats are not always accepted or refused as settings: a deviation of zero is neither. -/
theorem not_forall_ofMeanAndDeviation_refused_as_settings :
    ¬ ∀ (means deviations : List Binary64) (d : Binary64),
      (∃ p, ofMeanAndDeviation (.tuple (means.map .float)) (.tuple (deviations.map .float))
        (.float d) (.bool false) = .ok p) ∨
      ∃ f, ofMeanAndDeviation (.tuple (means.map .float)) (.tuple (deviations.map .float))
        (.float d) (.bool false) = .error f ∧ f.kind? = some .settings := by
  intro hall
  have hfails : ofMeanAndDeviation (.tuple (List.map .float [.ofInt 0, .ofInt 0, .ofInt 0]))
      (.tuple (List.map .float [.ofInt 0, .ofInt 1, .ofInt 1])) (.float (.ofInt 1))
        (.bool false) = .error .divisionByZero := by
    rfl
  rcases hall [.ofInt 0, .ofInt 0, .ofInt 0] [.ofInt 0, .ofInt 1, .ofInt 1] (.ofInt 1) with
    ⟨p, hp⟩ | ⟨f, hf, hkind⟩
  · rw [hfails] at hp
    cases hp
  · rw [hfails] at hf
    cases hf
    cases hkind

end RasterTensor.Parameters
