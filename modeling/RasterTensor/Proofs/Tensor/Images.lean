import Mathlib.Tactic.Ring
import RasterTensor.Catalogue
import RasterTensor.Proofs.Tensor.Indexing
import RasterTensor.Proofs.Tensor.Strides

/-!
# Arrays as images

An array is an image if it holds bytes in rows of pixels with three channels. Such an array is taken
as a pixel buffer of its samples, and every other array is refused.
-/

namespace RasterTensor

open Binary

namespace StridedArray

variable {a : StridedArray} {h w y x c : Nat}

/-- The byte that an array of bytes holds at a row, a column and a channel. -/
def sample (a : StridedArray) (y x c : Nat) : UInt8 :=
  byteAt a.buffer (a.offset + displacement a.strides [y, x, c]).toNat

/-- An array of bytes with three channels for each pixel, and at least one pixel. -/
structure IsImage (a : StridedArray) (h w : Nat) : Prop where
  type_eq : a.type = .bytes
  shape_eq : a.shape = [h, w, 3]
  height_pos : 0 < h
  width_pos : 0 < w

theorem IsImage.unique {h' w' : Nat} (himage : a.IsImage h w) (himage' : a.IsImage h' w') :
    h = h' ∧ w = w' := by
  simpa using himage.shape_eq.symm.trans himage'.shape_eq

/-- The samples of an image of a size. -/
def samples (a : StridedArray) (h w : Nat) : Set UInt8 :=
  {v | ∃ y x c, y < h ∧ x < w ∧ c < 3 ∧ a.sample y x c = v}

theorem exists_strides (ha : a.strides.length = a.shape.length) (hshape : a.shape = [h, w, 3]) :
    ∃ row column channel, a.strides = [row, column, channel] := by
  rw [hshape] at ha
  exact List.length_eq_three.mp ha

theorem byteAt_content (ha : a.strides.length = a.shape.length) (himage : a.IsImage h w)
    (hy : y < h) (hx : x < w) (hc : c < 3) :
    byteAt a.content (Grid.place w y x c) = a.sample y x c := by
  obtain ⟨row, column, channel, hstrides⟩ := exists_strides ha himage.shape_eq
  have hsize : a.type.size = 1 := by rw [himage.type_eq]; rfl
  have hnative (i : Nat) : a.type.nativePlace i = i := by rw [himage.type_eq]; rfl
  have hcount : Grid.place w y x c < a.count * 1 := by
    have hplace := Grid.place_lt hy hx hc
    simpa [count, himage.shape_eq, elementCount, Nat.mul_assoc] using hplace
  have haxes : a.axesFromLast = [(3, channel), (w, column), (h, row)] := by
    rw [axesFromLast, himage.shape_eq, hstrides]
    rfl
  obtain ⟨hpixel, hchannel⟩ := div_mod_of_lt (k := y * w + x) hc
  obtain ⟨hrow, hcolumn⟩ := div_mod_of_lt (k := y) hx
  have hdisplacement : offsetFromLast a.axesFromLast (Grid.place w y x c) =
      displacement a.strides [y, x, c] := by
    simp only [haxes, offsetFromLast, Grid.place, hpixel, hchannel, hrow, hcolumn,
      Nat.mod_eq_of_lt hy, hstrides, displacement]
    ring
  simp only [content, hsize]
  rw [byteAt_bytesOfFn _ hcount, hnative, Nat.div_one, Nat.mod_one, Nat.add_zero, hdisplacement]
  rfl

theorem isImage_reverseAxis : (a.reverseAxis 2).IsImage h w ↔ a.IsImage h w := by
  constructor <;> rintro ⟨htype, hshape, hh, hw⟩ <;> exact ⟨htype, hshape, hh, hw⟩

theorem sample_reverseAxis (ha : a.strides.length = a.shape.length) (himage : a.IsImage h w)
    (hc : c < 3) : (a.reverseAxis 2).sample y x c = a.sample y x (2 - c) := by
  obtain ⟨row, column, channel, hstrides⟩ := exists_strides ha himage.shape_eq
  have hreversed : (a.reverseAxis 2).strides = [row, column, -channel] := by
    rw [reverseAxis, hstrides]
    rfl
  have hoffset : (a.reverseAxis 2).offset = a.offset + 2 * channel := by
    rw [reverseAxis, hstrides, himage.shape_eq]
    rfl
  have hlast : ((2 - c : Nat) : Int) = 2 - c := Int.ofNat_sub (Nat.le_of_lt_succ hc)
  have hplace : (a.reverseAxis 2).offset + displacement (a.reverseAxis 2).strides [y, x, c] =
      a.offset + displacement a.strides [y, x, 2 - c] := by
    rw [hreversed, hoffset, hstrides]
    simp only [displacement, hlast]
    ring
  rw [sample, hplace]
  rfl

end StridedArray

namespace PixelBuffer

variable {a b : StridedArray} {source : String} {supplied : Supplied} {image : PixelBuffer}

/-- The image holds the samples of an array. -/
structure Shows (image : PixelBuffer) (a : StridedArray) : Prop where
  isImage : a.IsImage image.height image.width
  get_eq : ∀ y x c, y < image.height → x < image.width → c < 3 →
    image.get y x c = a.sample y x c

theorem ext_get {image' : PixelBuffer} (hh : image.height = image'.height)
    (hw : image.width = image'.width)
    (h : ∀ y x c, y < image.height → x < image.width → c < 3 →
      image.get y x c = image'.get y x c) : image = image' := by
  obtain ⟨grid, _, _⟩ := image
  obtain ⟨grid', _, _⟩ := image'
  cases Grid.ext_get hh hw h
  rfl

theorem ends_ofSupplied (source : String) (a : StridedArray) :
    Ends
      (fun image => a.IsImage image.height image.width ∧
        ∀ y x c, y < image.height → x < image.width → c < 3 →
          image.get y x c = byteAt a.content (Grid.place image.width y x c))
      (fun f => f.refusesValue = true ∧ ∀ h w, ¬ a.IsImage h w)
      (ofSupplied source (.array a)) := by
  unfold ofSupplied
  dsimp only
  split
  · next htype => exact .error ⟨rfl, fun h w himage => htype himage.type_eq⟩
  · next htype =>
    split
    · next height width hshape =>
      split
      · next hpos =>
        exact .ok ⟨⟨not_not.mp htype, hshape, hpos.1, hpos.2⟩,
          fun y x c hy hx hc => Grid.get_ofFn _ hy hx hc⟩
      · next hpos =>
        refine .error ⟨rfl, fun h w himage => hpos ?_⟩
        have hsize : [height, width, 3] = [h, w, 3] := hshape.symm.trans himage.shape_eq
        cases hsize
        exact ⟨himage.height_pos, himage.width_pos⟩
    · next hshape => exact .error ⟨rfl, fun h w himage => hshape h w himage.shape_eq⟩

theorem shows_of_ofSupplied (ha : a.strides.length = a.shape.length)
    (hresult : ofSupplied source (.array a) = .ok image) : image.Shows a := by
  obtain ⟨himage, hget⟩ := (ends_ofSupplied source a).of_ok hresult
  refine ⟨himage, fun y x c hy hx hc => ?_⟩
  rw [hget y x c hy hx hc, StridedArray.byteAt_content ha himage hy hx hc]

theorem isImage_of_ofSupplied (hresult : ofSupplied source supplied = .ok image) :
    ∃ a, supplied = .array a ∧ a.IsImage image.height image.width := by
  cases supplied with
  | value v => cases hresult
  | array a => exact ⟨a, rfl, ((ends_ofSupplied source a).of_ok hresult).1⟩

def count (p : PixelBuffer) : Nat := p.height * p.width * 3

theorem count_pos (p : PixelBuffer) : 0 < p.count :=
  Nat.mul_pos (Nat.mul_pos p.height_pos p.width_pos) (by decide)

theorem count_of_ofSupplied (h : ofSupplied source supplied = .ok image) :
    ∃ a, supplied = .array a ∧ a.count = image.count := by
  obtain ⟨a, rfl, himage⟩ := isImage_of_ofSupplied h
  refine ⟨a, rfl, ?_⟩
  simp [StridedArray.count, himage.shape_eq, elementCount, count, Nat.mul_assoc]

theorem Shows.mem_iff (h : image.Shows a) {v : UInt8} :
    v ∈ image.toGrid.toArray ↔ v ∈ a.samples image.height image.width := by
  rw [Grid.mem_toArray]
  constructor
  · rintro ⟨y, x, c, hy, hx, hc, rfl⟩
    exact ⟨y, x, c, hy, hx, hc, (h.get_eq y x c hy hx hc).symm⟩
  · rintro ⟨y, x, c, hy, hx, hc, rfl⟩
    exact ⟨y, x, c, hy, hx, hc, h.get_eq y x c hy hx hc⟩

theorem exists_shows (source : String) (ha : a.strides.length = a.shape.length) {h w : Nat}
    (himage : a.IsImage h w) :
    ∃ image, ofSupplied source (.array a) = .ok image ∧ image.Shows a := by
  cases hresult : ofSupplied source (.array a) with
  | ok image => exact ⟨image, rfl, shows_of_ofSupplied ha hresult⟩
  | error f => exact absurd himage (((ends_ofSupplied source a).of_error hresult).2 h w)

theorem ofSupplied_eq_error {f : Failure} (htype : b.type = a.type) (hshape : b.shape = a.shape)
    (h : ofSupplied source (.array a) = .error f) :
    ofSupplied source (.array b) = .error f := by
  unfold ofSupplied at h ⊢
  dsimp only at h ⊢
  rw [htype, hshape]
  split at h
  · next hother => rwa [if_pos hother]
  · next hbytes =>
    rw [if_neg hbytes]
    split at h
    · split at h
      · cases h
      · next hempty => rwa [dif_neg hempty]
    · exact h

end PixelBuffer

end RasterTensor
