import RasterTensor.Proofs.Conversion.ReadBack
import RasterTensor.Proofs.Report.Contents
import RasterTensor.Proofs.Settings.Keys
import RasterTensor.Proofs.Settings.RoundTrip

/-!
# Reports as sidecars

A report tells with which settings a tensor file was made, and how to read it. What it tells does
not depend on the order in which its entries come.
-/

namespace RasterTensor

open Binary Document Files

namespace Report

/-- The height and the width in a shape, at the places where a layout has them. -/
def extent? : Layout → List Value → Option (Value × Value)
  | .nhwc, [_, height, width, _] => some (height, width)
  | .nchw, [_, _, height, width] => some (height, width)
  | _, _ => none

/-- Reads the tensor file that a report tells of, in the way that the report tells. -/
def decodeTensor (reach : Reach) (t : Tree) (tensor : Entries) :
    Option (Except Failure Tensor) := do
  let path ← tensor.field? "output_path"
  let shape ← tensor.field? "shape"
  let element ← tensor.field? "element_type"
  let layout ← tensor.field? "layout"
  match path, shape with
  | .text path, .list lengths =>
    let (height, width) ← extent? (← (Layout.ofValue reach layout).toOption) lengths
    return readTensor reach t path element height width layout
  | _, _ => none

def itemSize? (dtype : String) : Option Nat := (ScalarType.ofName? dtype).map ScalarType.size

/-- The sizes that a report tells are those of the file, of the elements and of the shape. -/
structure Measures (t : Tree) (tensor : Entries) (path : String) (shape : List Nat)
    (count itemSize : Nat) (bytes : ByteArray) : Prop where
  path_eq : tensor.field? "output_path" = some (.text path)
  shape_eq : tensor.field? "shape" = some (.list (shape.map fun n : Nat => .int n))
  count_eq : tensor.field? "num_elements" = some (.int count)
  size_eq : tensor.field? "num_bytes" = some (.int bytes.size)
  type : ∃ dtype, tensor.field? "dtype" = some (.text dtype) ∧ itemSize? dtype = some itemSize
  file : t.read (.ofText path) = .ok bytes
  bytes_count : bytes.size = count * itemSize
  bytes_shape : bytes.size = elementCount shape * itemSize

/-- A report gives the settings, and suffices to read the tensor file. -/
structure Describes (t : Tree) (s : Settings) (report : Entries) : Prop where
  config : ∃ config, report.field? "config" = some config ∧
    ∀ reach, Settings.ofValue reach config = .ok s
  tensor : ∃ tensor decoded path shape count itemSize bytes,
    report.field? "tensor" = some (.mapping tensor) ∧
    (∀ reach, decodeTensor reach t tensor = some (.ok decoded)) ∧ decoded.shape = shape ∧
    Measures t tensor path shape count itemSize bytes

variable {origin : Origin} {r : TensorSummary} {s : Settings} {t : Tree} {report tensor : Entries}

/-! ## Settings -/

theorem fixed_of_mem_settings {v : Value} (h : v ∈ s.toEntries.map Prod.snd) : v.Fixed := by
  simp only [Settings.toEntries, List.map_cons, List.map_nil, List.mem_cons, List.not_mem_nil,
    or_false] at h
  rcases h with rfl | rfl | rfl | rfl | rfl | rfl | rfl
  all_goals first | exact Value.fixed_text _ | exact Value.fixed_int _

theorem nodup_keys {names : List String} (h : names.Nodup) : (names.map Value.text).Nodup :=
  h.map fun _ _ heq => Value.text.inj heq

theorem ofValue_of_rearranged {config : Value}
    (h : (Value.mapping s.toEntries).Rearranged config)
    (hread : ∀ reach, Settings.ofEntries reach s.toEntries = .ok s) (reach : Reach) :
    Settings.ofValue reach config = .ok s := by
  obtain ⟨entries, rfl, hperm⟩ := h.perm_of_fixed fun v hv => fixed_of_mem_settings hv
  have hnodup : (s.toEntries.map Prod.fst).Nodup :=
    nodup_keys (show Settings.names.Nodup by decide)
  exact (Settings.ofEntries_perm hnodup rfl hperm).symm.trans (hread reach)

/-! ## The tensor file -/

theorem readTensor_names (reach : Reach) (t : Tree) (path : String) (element : ElementType)
    (layout : Layout) (height width : Value) :
    readTensor reach t path (.text element.name) height width (.text layout.name) =
      readTensor reach t path (.choice (.elementType element)) height width
        (.choice (.layout layout)) := by
  have helement : ElementType.ofValue reach (.text element.name) =
      ElementType.ofValue reach (.choice (.elementType element)) := element.ofValue_name reach
  have hlayout : Layout.ofValue reach (.text layout.name) =
      Layout.ofValue reach (.choice (.layout layout)) := layout.ofValue_name reach
  simp only [readTensor, readShape, helement, hlayout]

theorem extent?_shape (layout : Layout) (height width : Nat) :
    extent? layout ((layout.shape height width).map fun n : Nat => .int n) =
      some (.int height, .int width) := by
  cases layout <;> rfl

theorem itemSize?_storage (element : ElementType) :
    itemSize? element.storage = some element.size := by
  cases element <;> decide

theorem shape_of_holds {p : Parameters} {image : PixelBuffer} (h : r.Holds t p image) :
    r.shape = r.layout.shape image.height image.width := by
  have heq := Except.ok.inj ((readShape_layout .flat _ _ _).symm.trans (h.shape_eq .flat))
  exact (List.map_injective_iff.mpr (fun _ _ => Int.ofNat.inj) heq).symm

/-- A summary of a tensor that was written tells of no more elements than there can be, and JSON
carries their number. -/
theorem legible_of_holds {p : Parameters} {image : PixelBuffer} (h : r.Holds t p image)
    (hcount : (image.count : Int) ≤ maxElements) (hparameters : r.parameters.Legible) :
    r.Legible := by
  have hcells := r.layout.elementCount_shape image.height image.width
  have hpositive := image.count_pos
  have helements : r.elementCount = image.count := by
    rw [r.elementCount_eq, shape_of_holds h, hcells, PixelBuffer.count]
  have hsize : r.elementType.size ≤ 4 := by cases r.elementType <;> decide
  have hbytes : r.byteCount ≤ image.count * 4 := by
    rw [h.byteCount_eq, helements]
    exact Nat.mul_le_mul_left _ hsize
  refine ⟨fun n hn => lt_integerLimit ?_, lt_integerLimit ?_, lt_integerLimit ?_, hparameters⟩
  · have hle : n ≤ RasterTensor.elementCount r.shape :=
      le_elementCount_of_mem (by rw [← r.elementCount_eq, helements]; exact hpositive) hn
    rw [← r.elementCount_eq, helements] at hle
    omega
  · omega
  · omega

theorem field?_of_rearranged (h : (Value.mapping r.toEntries).Rearranged (.mapping tensor))
    {name : String} {v : Value} (hfield : r.toEntries.field? name = some v) (hfixed : v.Fixed) :
    tensor.field? name = some v :=
  h.field?_of_fixed (nodup_keys (show ["output_path", "shape", "layout", "element_type", "dtype",
    "num_elements", "num_bytes", "normalization"].Nodup by decide)) hfield hfixed

theorem tensor_of_rearranged {p : Parameters} {image : PixelBuffer}
    (h : (Value.mapping r.toEntries).Rearranged (.mapping tensor)) (hclean : r.outputPath.Clean)
    (hholds : r.Holds t p image) :
    ∃ decoded bytes, (∀ reach, decodeTensor reach t tensor = some (.ok decoded)) ∧
      decoded.shape = r.shape ∧
      Measures t tensor r.outputPath.text r.shape r.elementCount r.elementType.size bytes := by
  have hshape := shape_of_holds hholds
  obtain ⟨bytes, hfile, hsize⟩ := hholds.file
  obtain ⟨decoded, hdecoded, -, hlengths, -⟩ := hholds.reading
  have hints : ∀ v ∈ r.shape.map fun n : Nat => Value.int n, v.Fixed := fun v hv => by
    obtain ⟨n, -, rfl⟩ := List.mem_map.mp hv
    exact Value.fixed_int n
  -- The fields have fixed values, so they are found whatever the order of the entries is.
  have hpathField : tensor.field? "output_path" = some (.text r.outputPath.text) :=
    field?_of_rearranged h rfl (Value.fixed_text _)
  have hshapeField : tensor.field? "shape" = some (.list (r.shape.map fun n : Nat => .int n)) :=
    field?_of_rearranged h rfl (Value.fixed_list hints)
  have helementField : tensor.field? "element_type" = some (.text r.elementType.name) :=
    field?_of_rearranged h rfl (Value.fixed_text _)
  have hlayoutField : tensor.field? "layout" = some (.text r.layout.name) :=
    field?_of_rearranged h rfl (Value.fixed_text _)
  have hdtypeField : tensor.field? "dtype" = some (.text r.elementType.storage) :=
    field?_of_rearranged h rfl (Value.fixed_text _)
  have hcountField : tensor.field? "num_elements" = some (.int r.elementCount) :=
    field?_of_rearranged h rfl (Value.fixed_int _)
  have hbytesField : tensor.field? "num_bytes" = some (.int r.byteCount) :=
    field?_of_rearranged h rfl (Value.fixed_int _)
  have hbytes : bytes.size = r.elementCount * r.elementType.size :=
    hsize.trans hholds.byteCount_eq
  have hmeasures : Measures t tensor r.outputPath.text r.shape r.elementCount
      r.elementType.size bytes :=
    { path_eq := hpathField
      shape_eq := hshapeField
      count_eq := hcountField
      size_eq := by rw [hbytesField, hsize]
      type := ⟨_, hdtypeField, itemSize?_storage _⟩
      file := by rw [hclean.ofText_text, hfile]
      bytes_count := hbytes
      bytes_shape := by rw [hbytes, r.elementCount_eq] }
  refine ⟨decoded, bytes, fun reach => ?_, hlengths, hmeasures⟩
  have hextent := extent?_shape r.layout image.height image.width
  rw [← hshape] at hextent
  simp [decodeTensor, hpathField, hshapeField, helementField, hlayoutField, Except.toOption,
    hextent, readTensor_names, hdecoded]

theorem describes_of_rearranged {p : Parameters} {image : PixelBuffer} {w : Value}
    (h : (Value.mapping (build origin r (some s))).Rearranged w)
    (hread : ∀ reach, Settings.ofEntries reach s.toEntries = .ok s) (hclean : r.outputPath.Clean)
    (hholds : r.Holds t p image) : ∃ report, w = .mapping report ∧ Describes t s report := by
  obtain ⟨-, report, rfl, -⟩ := h.exists_mapping
  have hnodup : ((build origin r (some s)).map Prod.fst).Nodup :=
    nodup_keys (show ["tensor", "config", "schema_version", "timestamp_utc",
      "pyimgtensor_version"].Nodup by decide)
  have hconfigField : (build origin r (some s)).field? "config" = some (.mapping s.toEntries) := rfl
  have htensorField : (build origin r (some s)).field? "tensor" = some (.mapping r.toEntries) := rfl
  obtain ⟨config, hconfig, hsame⟩ := h.exists_field? hnodup hconfigField
  obtain ⟨w, htensor, hentries⟩ := h.exists_field? hnodup htensorField
  obtain ⟨-, tensor, rfl, -⟩ := hentries.exists_mapping
  obtain ⟨decoded, bytes, hdecoded, hshape, hmeasures⟩ :=
    tensor_of_rearranged hentries hclean hholds
  exact ⟨report, rfl, ⟨config, hconfig, ofValue_of_rearranged hsame hread⟩,
    ⟨tensor, decoded, _, _, _, _, bytes, htensor, hdecoded, hshape, hmeasures⟩⟩

end Report

end RasterTensor
