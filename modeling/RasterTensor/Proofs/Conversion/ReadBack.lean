import RasterTensor.Proofs.Conversion.Stages
import RasterTensor.Proofs.Settings
import RasterTensor.Proofs.Tensor.Chunks
import RasterTensor.Proofs.Tensor.Images
import RasterTensor.Proofs.Tensor.Indexing
import RasterTensor.Proofs.Tensor.Reading
import RasterTensor.Proofs.Tensor.Resizing

/-!
# Reading a converted image back

A tensor file that a conversion has written holds one element for each sample of the resized
image. Read with the size, the layout and the element type that the conversion tells, it gives at
the index of each sample what the profile makes of that sample.
-/

namespace RasterTensor

open Binary Document Files

/-- The elements of an array are counted in a signed word, so no array that is supplied has more. -/
def Loader.Storable (loader : Loader) : Prop :=
  ∀ path t a, (loader path t).1 = .ok (.array a) → (a.count : Int) ≤ maxElements

theorem Profile.swap_parameters (frontEnd : FrontEnd) (element : ElementType) :
    (parameters frontEnd element).swap = false := by
  cases frontEnd <;> cases element <;> rfl

theorem TensorSummary.elementCount_eq (r : TensorSummary) :
    r.elementCount = RasterTensor.elementCount r.shape :=
  List.prod_eq_foldl.symm

/-- The tensor file that a summary tells of holds what parameters make of an image. -/
structure TensorSummary.Holds (r : TensorSummary) (t : Tree) (p : Parameters)
    (image : PixelBuffer) : Prop where
  shape_eq : ∀ reach, readShape reach (.int image.height) (.int image.width) (.int 3)
    (.choice (.layout r.layout)) = .ok (r.shape.map Int.ofNat)
  elementCount_eq : r.elementCount = 3 * image.height * image.width
  byteCount_eq : r.byteCount = r.elementCount * r.elementType.size
  file : ∃ bytes, t.read r.outputPath = .ok bytes ∧ bytes.size = r.byteCount
  reading : ∃ tensor,
    (∀ reach, readTensor reach t r.outputPath.text (.choice (.elementType r.elementType))
      (.int image.height) (.int image.width) (.choice (.layout r.layout)) = .ok tensor) ∧
    tensor.element = r.elementType ∧ tensor.shape = r.shape ∧
    ∀ y x (c : Fin 3), y < image.height → x < image.width →
      tensor.at? (r.layout.index y x c) = some (r.elementType.finalize
        ((.ofNat (image.get y x c).toNat - .ofBinary64 (p.offset.get c)) *
          .ofBinary64 (p.scale.get c)))

namespace Conversion

/-- The summary of a conversion to some settings that made a tensor of an image. -/
def summaryOf (settings : Settings) (image : PixelBuffer) (tensor : Tensor) : TensorSummary where
  outputPath := settings.outputPath
  shape := settings.layout.shape image.height image.width
  elementType := settings.elementType
  layout := settings.layout
  byteCount := tensor.bytes.size
  parameters := Profile.parameters settings.frontEnd settings.elementType

variable {resample : Resampler} {loader : Loader} {observer : Option Observer}
  {settings : Settings} {device : Device} {t : Tree} {s : Scene} {r : TensorSummary}

/-- A run that succeeds has gone from the supplied image to the tensor, and the bytes of the
tensor are all there is in the file. -/
theorem look_output_of_run (hobserver : Observer.Spares observer settings.outputPath)
    (h : (run resample (.chunked device) loader observer settings).play (.opening t) = (.ok r, s)) :
    ∃ supplied image resized tensor,
      (loader settings.inputPath (Observer.tell observer .configured t).2).1 = .ok supplied ∧
      PixelBuffer.ofSupplied settings.inputPath.text supplied = .ok image ∧
      image.resize resample settings.width settings.height = .ok resized ∧
      (Profile.parameters settings.frontEnd settings.elementType).normalize resized
        settings.layout settings.elementType = .ok tensor ∧
      s.tree.look settings.outputPath = .ok (some (.file tensor.bytes)) ∧
      r = summaryOf settings resized tensor := by
  obtain ⟨t₁, notes, s₂, hconfigured, hproduced, hdone⟩ := produced_of_run h
  cases hproduced with
  | intro supplied image resized tensor place byteCount notes t₂ t₃ t₄ t₅ t₆ hfree hload himage
      hloaded hresize hresized hnormalize hnormalized hplace hnone hwrite hserialized =>
      obtain ⟨hreceived, rfl⟩ := Writer.chunked_eq_ok hwrite
      refine ⟨supplied, image, resized, tensor, ?_, himage, hresize, hnormalize, ?_, rfl⟩
      · have htree : (Observer.tell observer .configured t).2 = t₁ := congrArg Prod.snd hconfigured
        rw [htree]
        exact congrArg Prod.fst hload
      · have hplaced : t₅.get? place ≠ some .directory := by simp [hnone]
        have hput := Tree.look_put hplace hplaced (.file tensor.bytes)
        -- The observer is told twice more, and leaves the file alone both times.
        have htold := hobserver.look_tell .serialized (t₅.put place (.file tensor.bytes))
        rw [hreceived] at hserialized
        rw [hserialized, hput] at htold
        have hend := hobserver.look_tell .done t₆
        rw [hdone, htold] at hend
        exact hend

/-- A file with the bytes of a normalized image is read back sample by sample. -/
theorem holds_summaryOf {resized : PixelBuffer} {tensor : Tensor}
    (hclean : settings.outputPath.Clean) (hcount : (resized.count : Int) ≤ maxElements)
    (hnormalize : (Profile.parameters settings.frontEnd settings.elementType).normalize resized
      settings.layout settings.elementType = .ok tensor)
    (hread : t.read settings.outputPath = .ok tensor.bytes) :
    (summaryOf settings resized tensor).Holds t
      (Profile.parameters settings.frontEnd settings.elementType) resized := by
  obtain ⟨helement, hfits, hsize, hentries⟩ := Parameters.normalize_eq_ok hnormalize
  have hcells := settings.layout.elementCount_shape resized.height resized.width
  have hbytes : tensor.bytes.size =
      elementCount (settings.layout.shape resized.height resized.width) *
        settings.elementType.size := by
    rw [Tensor.size_bytes, hsize, hcells, helement]
  have hwords : Tensor.wordsOfBytes settings.elementType tensor.bytes = tensor.words := by
    rw [← helement, hfits.wordsOfBytes_bytes]
  have hpos : 0 < elementCount (settings.layout.shape resized.height resized.width) := by
    rw [hcells]
    exact resized.count_pos
  have hreading (reach : Reach) :
      readTensor reach t settings.outputPath.text (.choice (.elementType settings.elementType))
          (.int resized.height) (.int resized.width) (.choice (.layout settings.layout)) =
        .ok ⟨settings.elementType, settings.layout.shape resized.height resized.width,
          tensor.words⟩ :=
    hwords ▸ readTensor_eq_ok hclean hread hbytes hpos (by rw [hcells]; exact hcount)
  refine
    { shape_eq := fun reach => readShape_layout reach _ _ _
      elementCount_eq := ?_
      byteCount_eq := ?_
      file := ⟨tensor.bytes, hread, rfl⟩
      reading := ⟨_, hreading, rfl, rfl, fun y x c hy hx => ?_⟩ }
  · rw [TensorSummary.elementCount_eq]
    exact hcells.trans (by rw [Nat.mul_comm _ 3, Nat.mul_assoc])
  · rw [TensorSummary.elementCount_eq]
    exact hbytes
  · have hat := hentries y x c hy hx
    rw [Parameters.sourceChannel, Profile.swap_parameters] at hat
    exact (Tensor.at?_of_isWithin (Layout.isWithin_index hy hx c.isLt)).trans hat

/-- A conversion that succeeds has written one element for each sample of the resized image, and
reading them gives what the profile makes of the sample at each index. -/
theorem readTensor_of_run {reach : Reach} (hsettings : settings.Accepted reach)
    (hloader : loader.Storable) (hobeys : resample.Obeys) (hstorable : resample.Storable)
    (hobserver : Observer.Spares observer settings.outputPath)
    (h : (run resample (.chunked device) loader observer settings).play (.opening t) = (.ok r, s)) :
    ∃ supplied image resized,
      (loader settings.inputPath (Observer.tell observer .configured t).2).1 = .ok supplied ∧
      PixelBuffer.ofSupplied settings.inputPath.text supplied = .ok image ∧
      image.resize resample settings.width settings.height = .ok resized ∧
      resized.height = Resize.resolve settings.height image.height ∧
      resized.width = Resize.resolve settings.width image.width ∧
      r.outputPath = settings.outputPath ∧ r.layout = settings.layout ∧
      r.elementType = settings.elementType ∧
      r.Holds s.tree (Profile.parameters settings.frontEnd settings.elementType) resized := by
  obtain ⟨supplied, image, resized, tensor, hload, himage, hresize, hnormalize, hlook, rfl⟩ :=
    look_output_of_run hobserver h
  obtain ⟨a, rfl, hcount⟩ := PixelBuffer.count_of_ofSupplied himage
  obtain ⟨hheight, hwidth⟩ := hobeys.size_resize hresize
  have hmax := hstorable.count_resize (hcount ▸ hloader _ _ a hload) hresize
  exact ⟨_, image, resized, hload, himage, hresize, hheight, hwidth, rfl, rfl, rfl,
    holds_summaryOf hsettings.clean.2 hmax hnormalize (Tree.read_of_look hlook)⟩

/-- An image of one pixel becomes two pixels side by side, written with a short first write. -/
theorem readTensor_of_run_onePixel :
    ∃ r s resized,
      (run .bilinear (.chunked (.ofList [.accept 5])) (.constant .onePixel) none
        ⟨.ofText "a.png", .ofText "o.bin", .tflite, .int32, 2, 1, .nchw⟩).play
          (.opening ⟨[], []⟩) = (.ok r, s) ∧
      resized.height = 1 ∧ resized.width = 2 ∧
      r.Holds s.tree (Profile.parameters .tflite .int32) resized := by
  generalize hplay : (run .bilinear (.chunked (.ofList [.accept 5])) (.constant .onePixel) none
    ⟨.ofText "a.png", .ofText "o.bin", .tflite, .int32, 2, 1, .nchw⟩).play
      (.opening ⟨[], []⟩) = outcome
  have hok : outcome.1.isOk = true := by rw [← hplay]; decide +kernel
  have haccepted : Settings.Accepted .flat
      ⟨.ofText "a.png", .ofText "o.bin", .tflite, .int32, 2, 1, .nchw⟩ :=
    ⟨{ inputPath := .text "a.png", outputPath := .text "o.bin",
       frontEnd := .choice (.frontEnd .tflite), elementType := .choice (.elementType .int32),
       width := .int 2, height := .int 1, layout := .choice (.layout .nchw) }, rfl⟩
  have hstorable : (Loader.constant .onePixel).Storable := by
    intro path t a h
    cases h
    decide
  obtain ⟨f | r, s⟩ := outcome
  · cases hok
  · obtain ⟨supplied, image, resized, -, -, -, hheight, hwidth, -, -, -, hholds⟩ :=
      readTensor_of_run haccepted hstorable Resampler.bilinear_obeys
        Resampler.bilinear_storable (fun _ h => by cases h) hplay
    exact ⟨r, s, resized, rfl, hheight, hwidth, hholds⟩

end Conversion

end RasterTensor
