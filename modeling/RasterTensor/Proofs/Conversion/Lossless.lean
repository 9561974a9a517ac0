import RasterTensor.Proofs.Conversion.ReadBack
import RasterTensor.Proofs.Normalization.Pointwise
import RasterTensor.Proofs.Normalization.Samples

/-!
# Nothing is lost

The profiles accept every image, and the element at the index of a sample stands for the value that
the profile gives to it. So the elements determine the image, and where no size is asked for but its
own, the tensor file does.
-/

namespace RasterTensor

open Binary Files

variable {image image' : PixelBuffer} {layout : Layout} {element : ElementType}
  {frontEnd : FrontEnd} {tensor tensor' : Tensor} {value : UInt8 → ℚ}

/-! ## Every image is accepted -/

theorem Profile.range_parameters (frontEnd : FrontEnd) (element : ElementType) :
    (parameters frontEnd element).low = 0 ∧ (parameters frontEnd element).high = 255 := by
  cases frontEnd <;> cases element <;> exact ⟨rfl, rfl⟩

theorem Profile.exists_normalize (frontEnd : FrontEnd) (element : ElementType)
    (image : PixelBuffer) (layout : Layout) :
    ∃ tensor, (parameters frontEnd element).normalize image layout element = .ok tensor := by
  obtain ⟨hlow, hhigh⟩ := range_parameters frontEnd element
  have haccepts : ∀ v ∈ image.toGrid.toArray, (parameters frontEnd element).Accepts v := fun v _ =>
    Parameters.accepts_of_range hlow hhigh v
  obtain ⟨values, hvalues⟩ := Parameters.exists_apply haccepts
  rw [Parameters.normalize, hvalues]
  exact ⟨_, rfl⟩

/-! ## The elements determine the image -/

/-- The elements stand for the values of the samples, in the order of a layout. -/
structure Tensor.Renders (t : Tensor) (layout : Layout) (image : PixelBuffer)
    (value : UInt8 → ℚ) : Prop where
  size_eq : t.words.size = image.height * image.width * 3
  element_at : ∀ y x (c : Fin 3), y < image.height → x < image.width →
    ∃ word, t.words[placeOfIndex (layout.shape image.height image.width)
        (layout.index y x c)]? = some word ∧ t.element.Denotes word (value (image.get y x c))

theorem Profile.renders_normalize (hkeeps : Keeps frontEnd element value)
    (hvalues : ∀ c v, ((parameters frontEnd element).affine c v).number.Denotes (value v))
    (h : (parameters frontEnd element).normalize image layout element = .ok tensor) :
    tensor.Renders layout image value := by
  obtain ⟨helement, -, hsize, hentries⟩ := Parameters.normalize_eq_ok h
  refine ⟨hsize, fun y x c hy hx => ⟨_, hentries y x c hy hx, ?_⟩⟩
  rw [helement, Parameters.sourceChannel, swap_parameters]
  exact (hkeeps.denotes_finalize (hvalues c _)).2

theorem Tensor.Renders.image_eq (hvalue : Function.Injective value)
    (h : tensor.Renders layout image value) (h' : tensor'.Renders layout image' value)
    (helement : tensor.element = tensor'.element) (hwords : tensor.words = tensor'.words)
    (hheight : image.height = image'.height) (hwidth : image.width = image'.width) :
    image = image' := by
  refine PixelBuffer.ext_get hheight hwidth fun y x c hy hx hc => hvalue ?_
  obtain ⟨word, hword, hdenotes⟩ := h.element_at y x ⟨c, hc⟩ hy hx
  obtain ⟨word', hword', hdenotes'⟩ := h'.element_at y x ⟨c, hc⟩ (hheight ▸ hy) (hwidth ▸ hx)
  rw [hwords, hheight, hwidth, hword', Option.some.injEq] at hword
  rw [← hword, helement] at hdenotes
  exact hdenotes.unique hdenotes'

theorem Tensor.Fits.words_eq (h : tensor.Fits) (h' : tensor'.Fits)
    (helement : tensor.element = tensor'.element) (hbytes : tensor.bytes = tensor'.bytes) :
    tensor.words = tensor'.words := by
  rw [← h.wordsOfBytes_bytes, ← h'.wordsOfBytes_bytes, helement, hbytes]

/-! ## The file determines the image -/

/-- The settings ask for no size but the image's own. -/
def Settings.KeepsSize (settings : Settings) (image : PixelBuffer) : Prop :=
  (settings.width = 0 ∨ settings.width = image.width) ∧
    (settings.height = 0 ∨ settings.height = image.height)

theorem Settings.KeepsSize.resize {settings : Settings} (h : settings.KeepsSize image)
    (resample : Resampler) :
    image.resize resample settings.width settings.height = .ok image := by
  have hwidth : Resize.resolve settings.width image.width = image.width := by
    unfold Resize.resolve
    split
    · rfl
    · exact h.1.resolve_left ‹_›
  have hheight : Resize.resolve settings.height image.height = image.height := by
    unfold Resize.resolve
    split
    · rfl
    · exact h.2.resolve_left ‹_›
  rw [PixelBuffer.resize_eq, if_pos ⟨hheight, hwidth⟩]

namespace Conversion

variable {settings : Settings} {bytes : ByteArray}

/-- Some run to the settings turns the image into a file of these bytes, which its observer leaves
alone. -/
def Makes (settings : Settings) (image : PixelBuffer) (bytes : ByteArray) : Prop :=
  ∃ resample loader observer device t r s supplied,
    Observer.Spares observer settings.outputPath ∧
    (run resample (.chunked device) loader observer settings).play (.opening t) = (.ok r, s) ∧
    (loader settings.inputPath (Observer.tell observer .configured t).2).1 = .ok supplied ∧
    PixelBuffer.ofSupplied settings.inputPath.text supplied = .ok image ∧
    s.tree.look settings.outputPath = .ok (some (.file bytes))

theorem Makes.exists_tensor (h : Makes settings image bytes)
    (hsize : settings.KeepsSize image) :
    ∃ tensor, (Profile.parameters settings.frontEnd settings.elementType).normalize image
      settings.layout settings.elementType = .ok tensor ∧ bytes = tensor.bytes := by
  obtain ⟨resample, loader, observer, device, t, r, s, supplied, hspares, hplay, hload, himage,
    hlook⟩ := h
  obtain ⟨supplied', image', resized, tensor, hload', himage', hresize, hnormalize, hlook', -⟩ :=
    look_output_of_run hspares hplay
  obtain rfl : supplied = supplied' := Except.ok.inj (hload.symm.trans hload')
  obtain rfl : image = image' := Except.ok.inj (himage.symm.trans himage')
  obtain rfl : image = resized := Except.ok.inj ((hsize.resize resample).symm.trans hresize)
  rw [hlook] at hlook'
  cases hlook'
  exact ⟨tensor, hnormalize, rfl⟩

/-- Each profile gives every sample a value that keeps it apart from the others, no cast to an
element is out of range, and the tensor of an image stands for the values of its samples. So two
images of one size that are not resized make the same file only when they are the same. -/
theorem lossless (settings : Settings) :
    ∃ value, Profile.Keeps settings.frontEnd settings.elementType value ∧
      (∀ c v, settings.elementType.InRange
        ((Profile.parameters settings.frontEnd settings.elementType).affine c v)) ∧
      (∀ image : PixelBuffer, ∃ tensor,
        (Profile.parameters settings.frontEnd settings.elementType).normalize image settings.layout
          settings.elementType = .ok tensor ∧
        tensor.element = settings.elementType ∧ tensor.Renders settings.layout image value ∧
        ∀ bytes, settings.KeepsSize image → Makes settings image bytes →
          bytes = tensor.bytes) ∧
      ∀ (image image' : PixelBuffer) (bytes : ByteArray),
        image.height = image'.height → image.width = image'.width → settings.KeepsSize image →
        Makes settings image bytes → Makes settings image' bytes → image = image' := by
  obtain ⟨value, hkeeps, hvalues⟩ := Profile.exists_keeps settings.frontEnd settings.elementType
  refine ⟨value, hkeeps, fun c v => (hkeeps.denotes_finalize (hvalues c v)).1, ?_, ?_⟩
  · intro image
    obtain ⟨tensor, hnormalize⟩ := Profile.exists_normalize settings.frontEnd settings.elementType
      image settings.layout
    refine ⟨tensor, hnormalize, (Parameters.normalize_eq_ok hnormalize).1,
      Profile.renders_normalize hkeeps hvalues hnormalize, fun bytes hsize hmakes => ?_⟩
    obtain ⟨written, hwritten, rfl⟩ := hmakes.exists_tensor hsize
    rw [Except.ok.inj (hwritten.symm.trans hnormalize)]
  · intro image image' bytes hheight hwidth hsize hmakes hmakes'
    have hsize' : settings.KeepsSize image' := by
      rwa [Settings.KeepsSize, ← hheight, ← hwidth]
    obtain ⟨tensor, hnormalize, rfl⟩ := hmakes.exists_tensor hsize
    obtain ⟨tensor', hnormalize', hbytes⟩ := hmakes'.exists_tensor hsize'
    obtain ⟨helement, hfits, -, -⟩ := Parameters.normalize_eq_ok hnormalize
    obtain ⟨helement', hfits', -, -⟩ := Parameters.normalize_eq_ok hnormalize'
    have hsame := helement.trans helement'.symm
    exact (Profile.renders_normalize hkeeps hvalues hnormalize).image_eq hkeeps.injective
      (Profile.renders_normalize hkeeps hvalues hnormalize') hsame
      (hfits.words_eq hfits' hsame hbytes) hheight hwidth

/-- The file of floats between -1 and 1 that one pixel makes is made by no other pixel. -/
theorem lossless_onePixel :
    ∃ bytes,
      Makes ⟨.ofText "a.png", .ofText "o.bin", .tensorflow, .float32, 0, 0, .nchw⟩ .onePixel
        bytes ∧
      ∀ image : PixelBuffer, image.height = 1 → image.width = 1 →
        Makes ⟨.ofText "a.png", .ofText "o.bin", .tensorflow, .float32, 0, 0, .nchw⟩ image
          bytes → image = .onePixel := by
  generalize hsettings : (⟨.ofText "a.png", .ofText "o.bin", .tensorflow, .float32, 0, 0, .nchw⟩ :
    Settings) = settings
  generalize hplay : (run .bilinear (.chunked (.ofList [.accept 5])) (.constant .onePixel) none
    settings).play (.opening ⟨[], []⟩) = outcome
  have hok : outcome.1.isOk = true := by rw [← hplay, ← hsettings]; decide +kernel
  have hspares : Observer.Spares none settings.outputPath := fun _ h => by cases h
  obtain ⟨f | r, s⟩ := outcome
  · cases hok
  · obtain ⟨supplied, image, -, tensor, hload, himage, -, -, hlook, -⟩ :=
      look_output_of_run hspares hplay
    have hsupplied : supplied = .array PixelBuffer.onePixel.toArray := (Except.ok.inj hload).symm
    have hpixel : PixelBuffer.ofSupplied settings.inputPath.text supplied = .ok .onePixel := by
      rw [hsupplied, ← hsettings]
      rfl
    have hmakes : Makes settings .onePixel tensor.bytes :=
      ⟨_, _, _, _, _, _, _, _, hspares, hplay, hload, hpixel, hlook⟩
    obtain ⟨-, -, -, -, hinjective⟩ := lossless settings
    refine ⟨tensor.bytes, hmakes, fun other hheight hwidth hother => ?_⟩
    have hsize : settings.KeepsSize PixelBuffer.onePixel := by
      rw [← hsettings]
      exact ⟨.inl rfl, .inl rfl⟩
    exact (hinjective _ _ _ hheight.symm hwidth.symm hsize hmakes hother).symm

end Conversion

end RasterTensor
