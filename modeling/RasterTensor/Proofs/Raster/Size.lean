import RasterTensor.Proofs.Conversion.ReadBack
import RasterTensor.Raster.Load

/-!
# Sizes of loaded images

A picture has the width and the height that its header tells, whatever its format, and a header
that tells of too many pixels is refused. So every image that is loaded from a file has few enough
samples to be counted.
-/

namespace RasterTensor

open Document Files

namespace Raster

/-- Every picture that comes of decoding has a given width and height. -/
def HasSize (width height : Nat) (decoded : Except Fault Picture) : Prop :=
  ∀ p, decoded = .ok p → p.width = width ∧ p.height = height

namespace HasSize

variable {width height : Nat} {x y : Except Fault Picture} {α : Type}

theorem error (f : Fault) : HasSize width height (.error f) := fun _ h => by cases h

theorem ok {p : Picture} (hwidth : p.width = width) (hheight : p.height = height) :
    HasSize width height (.ok p) := by
  rintro q hq
  cases hq
  exact ⟨hwidth, hheight⟩

theorem bind {x : Except Fault α} {f : α → Except Fault Picture}
    (h : ∀ a, HasSize width height (f a)) : HasSize width height (x >>= f) := by
  intro p hp
  obtain ⟨a, -, ha⟩ := bind_eq_ok.mp hp
  exact h a p ha

theorem ite {c : Prop} [Decidable c] (hx : HasSize width height x) (hy : HasSize width height y) :
    HasSize width height (if c then x else y) := by
  split
  · exact hx
  · exact hy

theorem guard {c : Prop} [Decidable c] {f : Fault} {rest : Unit → Except Fault Picture}
    (h : HasSize width height (rest ())) :
    HasSize width height (if c then (throw f : Except Fault Unit) >>= rest else rest ()) :=
  .ite (.error f) h

end HasSize

/-! ## Formats -/

variable {file : ByteArray}

theorem Png.hasSize_decode (h : Png.Header) (first : Option Png.Chunk) :
    HasSize h.width h.height (Png.decode file h first) := by
  unfold decode
  split
  · exact .guard (.bind fun _ => .bind fun _ => .bind fun _ => .ok rfl rfl)
  · exact .error _

theorem Bmp.hasSize_decode (h : Bmp.Header) : HasSize h.width h.height (Bmp.decode file h) := by
  unfold decode
  exact .guard (.guard (.guard (.ite (.ok rfl rfl) (.ok rfl rfl))))

namespace Pnm

variable (h : Header)

theorem hasSize_storedRows (mode : Mode) (change : UInt8 → UInt8) :
    HasSize h.width.toNat h.height.toNat (storedRows h mode change) :=
  .ite (.error _) (.ok rfl rfl)

theorem hasSize_scaledSamples : HasSize h.width.toNat h.height.toNat (scaledSamples h) :=
  .ite (.error _) (.ok rfl rfl)

theorem hasSize_plainBits : HasSize h.width.toNat h.height.toNat (plainBits h) := by
  unfold plainBits
  dsimp only
  split
  · exact .error _
  · exact .guard (.ok rfl rfl)

theorem hasSize_plainSamples : HasSize h.width.toNat h.height.toNat (plainSamples h) := by
  unfold plainSamples
  have hrest (samples : List Nat) : HasSize h.width.toNat h.height.toNat
      (.ok (h.picture samples.toArray)) := .ok rfl rfl
  dsimp only
  split
  · -- The last token is looked at before the others are read.
    refine .ite ?_ (.bind fun samples => .guard (hrest samples))
    split
    · exact .error _
    · exact .bind fun samples => .guard (hrest samples)
  · exact .bind fun samples => .guard (hrest samples)

theorem Header.hasSize_decode : HasSize h.width.toNat h.height.toNat h.decode := by
  unfold decode
  split
  · exact hasSize_plainBits h
  · exact hasSize_plainSamples h
  · exact hasSize_storedRows h _ _
  · exact .ite (.ite (.error _) (hasSize_storedRows h _ _))
      (.ite (hasSize_storedRows h _ _) (hasSize_scaledSamples h))
  · exact .ite (hasSize_storedRows h _ _) (hasSize_scaledSamples h)

end Pnm

/-! ## Files -/

theorem hasSize_openImage {image : Opened} (h : openImage file = .ok (some image)) :
    HasSize image.width image.height (image.decode ()) := by
  unfold openImage at h
  split at h
  · split at h
    · cases h
    · cases h
    · next header first _ =>
      split at h
      · cases h
      · cases h
        exact Png.hasSize_decode header first
  · split at h
    · split at h
      · cases h
      · cases h
      · next header _ =>
        obtain ⟨-, -, h⟩ := bind_eq_ok.mp h
        cases h
        exact Bmp.hasSize_decode header.completed
    · obtain ⟨found, -, h⟩ := bind_eq_ok.mp h
      split at h
      · cases h
      · next header =>
        cases h
        exact header.hasSize_decode

theorem size_of_decode {name : String} {p : Picture} (h : decode name file = .ok p) :
    p.width * p.height ≤ maxPixels := by
  obtain ⟨opened, hopened, h⟩ := bind_eq_ok.mp h
  split at h
  · cases h
  · next image =>
    have hsize := hasSize_openImage hopened
    dsimp only at h
    split at h
    · cases h
    · split at h
      · cases h
      · next hpixels =>
        obtain ⟨hwidth, hheight⟩ := hsize p h
        rw [hwidth, hheight]
        exact Nat.le_of_not_lt hpixels

theorem count_of_standard {path : String} {image : PixelBuffer}
    (h : Decoder.standard path file = .ok image) : image.count ≤ maxPixels * 3 := by
  unfold Decoder.standard at h
  split at h
  · cases h
  · next picture hpicture =>
    have hpixels := size_of_decode hpicture
    unfold bufferOfGrid at h
    split at h
    · cases h
      exact Nat.mul_le_mul_right 3 (Nat.mul_comm _ _ ▸ hpixels)
    · cases h

/-- Decoded images are arrays, with no more samples than an array can have. -/
def Decoder.Storable (decoder : Decoder) : Prop :=
  ∀ path file image, decoder path file = .ok image → (image.count : Int) ≤ maxElements

theorem Decoder.storable_standard : Decoder.standard.Storable := by
  intro path file image h
  have hmax : ((maxPixels * 3 : Nat) : Int) ≤ maxElements := by decide
  exact Int.le_trans (Int.ofNat_le.mpr (count_of_standard h)) hmax

theorem exists_decoded_of_load {decoder : Decoder} {t : Tree} {path : String} {image : PixelBuffer}
    (h : loadWith decoder t path = .ok image) : ∃ file, decoder path file = .ok image := by
  unfold loadWith at h
  split at h
  · cases h
  · exact ⟨_, h⟩

end Raster

theorem PixelBuffer.count_toArray (image : PixelBuffer) : image.toArray.count = image.count := by
  simp [toArray, StridedArray.count, StridedArray.packed, shape, elementCount, count,
    Nat.mul_assoc]

/-- An image from a file has few enough samples for an array when its decoder sees to that. -/
theorem Loader.storable_reading {decoder : Raster.Decoder} (h : decoder.Storable) :
    (reading decoder).Storable := by
  intro path t a hload
  obtain ⟨image, himage, harray⟩ := map_eq_ok.mp hload
  cases harray
  obtain ⟨file, hfile⟩ := Raster.exists_decoded_of_load himage
  rw [image.count_toArray]
  exact h _ _ _ hfile

end RasterTensor
