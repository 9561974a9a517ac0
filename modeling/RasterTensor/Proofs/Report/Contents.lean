import RasterTensor.Normalization.Profile
import RasterTensor.Proofs.Json.RoundTrip
import RasterTensor.Proofs.Tensor.Reading
import RasterTensor.Report

/-!
# What reports hold

A report holds texts, integers and the parameters of a profile, in mappings with texts as keys. As
long as the integers are not too long, JSON carries all of that.
-/

namespace RasterTensor

open Binary Document Json Text

/-! ## Parameters -/

theorem legible_zero : Legible (.ofInt 0) :=
  ⟨false, decimal 0, ['0'], by decide +kernel, isWhole_decimal 0,
    List.all_eq_true.mp (by decide), by decide, by decide +kernel⟩

theorem legible_one : Legible (.ofInt 1) :=
  ⟨false, decimal 1, ['0'], by decide +kernel, isWhole_decimal 1,
    List.all_eq_true.mp (by decide), by decide, by decide +kernel⟩

theorem legible_offset_centered : Legible (.ofInt 128) :=
  ⟨false, decimal 128, ['0'], by decide +kernel, isWhole_decimal 128,
    List.all_eq_true.mp (by decide), by decide, by decide +kernel⟩

theorem legible_halfSpan : Legible Parameters.halfSpan :=
  ⟨false, decimal 127, ['5'], by decide +kernel, isWhole_decimal 127,
    List.all_eq_true.mp (by decide), by decide, by decide +kernel⟩

/-- The shortest decimal that is nearest to `1 / 127.5` is read as that float again. -/
theorem legible_scale_symmetric : Legible (.ofInt 1 / Parameters.halfSpan) :=
  ⟨false, decimal 0, "00784313725490196".toList, by decide +kernel, isWhole_decimal 0,
    List.all_eq_true.mp (by decide), by decide, by decide +kernel⟩

namespace Parameters

/-- The parameters have texts from which they can be read. -/
structure Legible (p : Parameters) : Prop where
  scale : ∀ x ∈ p.scale.toList, Json.Legible x
  offset : ∀ x ∈ p.offset.toList, Json.Legible x
  low : p.low.natAbs < Decimal.integerLimit
  high : p.high.natAbs < Decimal.integerLimit

theorem forall_mem_all {P : Binary64 → Prop} {x : Binary64} (h : P x) :
    ∀ y ∈ (PerChannel.all x).toList, P y := by
  simpa [PerChannel.all, PerChannel.toList] using h

end Parameters

theorem lt_integerLimit {n : Nat} (h : (n : Int) ≤ maxElements * 4) :
    n < Decimal.integerLimit := by
  have hpow {k : Nat} (hk : 20 ≤ k) : 100000000000000000000 ≤ Nat.pow 10 k :=
    Nat.pow_le_pow_right (n := 10) (by decide) hk
  rw [maxElements_eq] at h
  unfold Decimal.integerLimit
  exact Nat.lt_of_lt_of_le (by omega) (hpow (by decide))

theorem Profile.legible_parameters (f : FrontEnd) (e : ElementType) :
    (parameters f e).Legible := by
  have hlow : (0 : Int).natAbs < Decimal.integerLimit := lt_integerLimit (by decide)
  have hhigh : (255 : Int).natAbs < Decimal.integerLimit := lt_integerLimit (by decide)
  have hidentity : Parameters.identity.Legible :=
    ⟨Parameters.forall_mem_all legible_one, Parameters.forall_mem_all legible_zero, hlow, hhigh⟩
  have hsymmetric : Parameters.symmetric.Legible :=
    ⟨Parameters.forall_mem_all legible_scale_symmetric,
      Parameters.forall_mem_all legible_halfSpan, hlow, hhigh⟩
  have hcentered : Parameters.centered.Legible :=
    ⟨Parameters.forall_mem_all legible_one,
      Parameters.forall_mem_all legible_offset_centered, hlow, hhigh⟩
  unfold parameters
  split
  · exact hidentity
  · exact hidentity
  · exact hsymmetric
  · exact hcentered

theorem Parameters.Legible.carried {p : Parameters} (h : p.Legible) (depth : Nat) :
    Carried (depth + 2) (.mapping p.toEntries) := by
  have hfloats {xs : List Binary64} (hxs : ∀ x ∈ xs, Json.Legible x) :
      Carried (depth + 1) (.list (xs.map .float)) := by
    refine .list depth _ fun v hv => ?_
    obtain ⟨x, hx, rfl⟩ := List.mem_map.mp hv
    exact .float depth x (hxs x hx)
  have hrange : Carried (depth + 1) (.list [.int p.low, .int p.high]) :=
    .list depth _ (by simp [Carried.int depth _ h.low, Carried.int depth _ h.high])
  refine .mapping (depth + 1)
    [("scale", .list (p.scale.toList.map .float)), ("offset", .list (p.offset.toList.map .float)),
      ("swap_channels", .bool p.swap), ("input_range", .list [.int p.low, .int p.high])]
    (show Parameters.names.Nodup by decide) ?_
  simp only [List.forall_mem_cons]
  exact ⟨hfloats h.scale, hfloats h.offset, .bool _ _, hrange, by simp⟩

/-! ## Summaries and settings -/

/-- The numbers of a summary are not too long, and its parameters have texts. -/
structure TensorSummary.Legible (r : TensorSummary) : Prop where
  shape : ∀ n ∈ r.shape, n < Decimal.integerLimit
  elementCount : r.elementCount < Decimal.integerLimit
  byteCount : r.byteCount < Decimal.integerLimit
  parameters : r.parameters.Legible

theorem TensorSummary.Legible.carried {r : TensorSummary} (h : r.Legible) (depth : Nat) :
    Carried (depth + 3) (.mapping r.toEntries) := by
  have hshape : Carried (depth + 2) (.list (r.shape.map fun n : Nat => .int n)) := by
    refine .list (depth + 1) _ fun v hv => ?_
    obtain ⟨n, hn, rfl⟩ := List.mem_map.mp hv
    exact .int _ n (h.shape n hn)
  refine .mapping (depth + 2)
    [("output_path", .text r.outputPath.text), ("shape", .list (r.shape.map fun n : Nat => .int n)),
      ("layout", .text r.layout.name), ("element_type", .text r.elementType.name),
      ("dtype", .text r.elementType.storage), ("num_elements", .int r.elementCount),
      ("num_bytes", .int r.byteCount), ("normalization", .mapping r.parameters.toEntries)]
    (show ["output_path", "shape", "layout", "element_type", "dtype", "num_elements", "num_bytes",
      "normalization"].Nodup by decide) ?_
  simp only [List.forall_mem_cons]
  exact ⟨.text _ _, hshape, .text _ _, .text _ _, .text _ _, .int _ _ h.elementCount,
    .int _ _ h.byteCount, h.parameters.carried depth, by simp⟩

theorem Settings.carried {s : Settings} (hwidth : s.width < Decimal.integerLimit)
    (hheight : s.height < Decimal.integerLimit) (depth : Nat) :
    Carried (depth + 1) (.mapping s.toEntries) := by
  refine .mapping depth
    [("input_path", .text s.inputPath.text), ("output_path", .text s.outputPath.text),
      ("front_end", .text s.frontEnd.name), ("element_type", .text s.elementType.name),
      ("width", .int s.width), ("height", .int s.height), ("layout", .text s.layout.name)]
    (show Settings.names.Nodup by decide) ?_
  simp only [List.forall_mem_cons]
  exact ⟨.text _ _, .text _ _, .text _ _, .text _ _, .int _ _ hwidth, .int _ _ hheight,
    .text _ _, by simp⟩

/-! ## Reports -/

namespace Report

variable {origin : Origin} {r : TensorSummary} {s : Settings}

def Origin.versionValue (origin : Origin) : Value :=
  match origin.version with
  | some v => .text v
  | none => .null

theorem build_eq (origin : Origin) (r : TensorSummary) (s : Settings) :
    build origin r (some s) =
      [(.text "tensor", .mapping r.toEntries), (.text "config", .mapping s.toEntries),
        (.text "schema_version", .int schemaVersion),
        (.text "timestamp_utc", .text origin.time.compactText),
        (.text "pyimgtensor_version", origin.versionValue)] := rfl

theorem carried_build (hr : r.Legible) (hwidth : s.width < Decimal.integerLimit)
    (hheight : s.height < Decimal.integerLimit) (depth : Nat) :
    Carried (depth + 4) (.mapping (build origin r (some s))) := by
  have hversion : Carried (depth + 3) origin.versionValue := by
    unfold Origin.versionValue
    split
    · exact .text _ _
    · exact .null _
  rw [build_eq]
  refine .mapping (depth + 3)
    [("tensor", .mapping r.toEntries), ("config", .mapping s.toEntries),
      ("schema_version", .int schemaVersion), ("timestamp_utc", .text origin.time.compactText),
      ("pyimgtensor_version", origin.versionValue)]
    (show ["tensor", "config", "schema_version", "timestamp_utc", "pyimgtensor_version"].Nodup by
      decide) ?_
  simp only [List.forall_mem_cons]
  exact ⟨hr.carried depth, Settings.carried hwidth hheight _,
    .int _ _ (lt_integerLimit (by decide)), .text _ _, hversion, by simp⟩

end Report

end RasterTensor
