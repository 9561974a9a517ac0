import RasterTensor.Proofs.Outcomes
import RasterTensor.Proofs.Tensor.Images
import RasterTensor.Tensor.Memory

/-!
# Resizing an image that others hold

A resize gives an image of the size that is asked for, where zero stands for the length that there
is, and writes into no buffer of its caller. Of the interpolation only the size of its result is
used.
-/

namespace RasterTensor

open Binary Document Resize

namespace PixelBuffer

theorem toGrid_inj {p q : PixelBuffer} : p = q ↔ p.toGrid = q.toGrid := by
  obtain ⟨grid, _, _⟩ := p
  obtain ⟨grid', _, _⟩ := q
  simp

theorem resize_eq (resample : Resampler) (p : PixelBuffer) (width height : ℕ) :
    p.resize resample width height =
      if resolve height p.height = p.height ∧ resolve width p.width = p.width then .ok p
      else resample p (resolve height p.height) (resolve width p.width) := by
  unfold resize resized?
  split
  · rfl
  · cases resample p (resolve height p.height) (resolve width p.width) <;> rfl

end PixelBuffer

namespace Resampler

/-- What is relied on of an interpolation: what it gives has the size asked for. -/
def Obeys (resample : Resampler) : Prop :=
  ∀ image height width q, resample image height width = .ok q → q.height = height ∧ q.width = width

/-- Interpolated images are arrays, with no more samples than an array can have. -/
def Storable (resample : Resampler) : Prop :=
  ∀ image height width q, resample image height width = .ok q → (q.count : ℤ) ≤ maxElements

theorem bilinear_eq_ok_iff {p q : PixelBuffer} {height width : ℕ} :
    bilinear p height width = .ok q ↔
      (0 < height ∧ 0 < width) ∧
        (height ≤ maxDimension ∧ width ≤ maxDimension ∧
          ((height * width * 3 : ℕ) : ℤ) ≤ maxElements) ∧
        q.toGrid = scaled p.toGrid height width := by
  unfold bilinear
  split
  · next hpositive =>
    rw [and_iff_right hpositive]
    split
    · next hlimits => exact iff_of_false nofun fun ⟨hfits, _⟩ => by omega
    · next hlimits =>
      rw [Except.ok.injEq, PixelBuffer.toGrid_inj, eq_comm, and_iff_right (by omega)]
  · next hzero => exact iff_of_false nofun fun h => hzero h.1

theorem bilinear_obeys : bilinear.Obeys := by
  intro image height width q h
  obtain ⟨-, -, hgrid⟩ := bilinear_eq_ok_iff.mp h
  constructor
  · rw [hgrid, height_scaled]
  · rw [hgrid, width_scaled]

theorem bilinear_storable : bilinear.Storable := by
  intro image height width q h
  obtain ⟨hheight, hwidth⟩ := bilinear_obeys image height width q h
  rw [PixelBuffer.count, hheight, hwidth]
  exact (bilinear_eq_ok_iff.mp h).2.1.2.2

/-- The size of a resized image is the one that is asked for. -/
theorem Obeys.size_resize {resample : Resampler} (hobeys : resample.Obeys) {p q : PixelBuffer}
    {width height : ℕ} (h : p.resize resample width height = .ok q) :
    q.height = resolve height p.height ∧ q.width = resolve width p.width := by
  rw [PixelBuffer.resize_eq] at h
  split at h
  · next hsame =>
    cases h
    exact ⟨hsame.1.symm, hsame.2.symm⟩
  · exact hobeys _ _ _ _ h

theorem Storable.count_resize {resample : Resampler} (hstorable : resample.Storable)
    {p q : PixelBuffer} {width height : ℕ} (hp : (p.count : ℤ) ≤ maxElements)
    (h : p.resize resample width height = .ok q) : (q.count : ℤ) ≤ maxElements := by
  rw [PixelBuffer.resize_eq] at h
  split at h
  · cases h
    exact hp
  · exact hstorable _ _ _ _ h

end Resampler

namespace PixelBuffer

variable {p q : PixelBuffer} {width height : ℕ}

theorem resize_bilinear_eq_ok_iff : p.resize .bilinear width height = .ok q ↔
    (resolve height p.height = p.height ∧ resolve width p.width = p.width) ∧ q = p ∨
      ¬(resolve height p.height = p.height ∧ resolve width p.width = p.width) ∧
        (resolve height p.height ≤ maxDimension ∧ resolve width p.width ≤ maxDimension ∧
          ((resolve height p.height * resolve width p.width * 3 : ℕ) : ℤ) ≤ maxElements) ∧
        q.toGrid = scaled p.toGrid (resolve height p.height) (resolve width p.width) := by
  rw [resize_eq]
  split
  · next hsame => simp [hsame, eq_comm]
  · next hother =>
    have hpositive : 0 < resolve height p.height ∧ 0 < resolve width p.width :=
      ⟨resolve_pos p.height_pos, resolve_pos p.width_pos⟩
    rw [Resampler.bilinear_eq_ok_iff, and_iff_right hpositive]
    simp only [hother, false_and, not_false_iff, true_and, false_or]

theorem byteAt_bytes (image : PixelBuffer) {y x c : Nat} (hy : y < image.height)
    (hx : x < image.width) (hc : c < 3) :
    byteAt image.bytes (Grid.place image.width y x c) = image.get y x c := by
  have hplace := Grid.place_lt hy hx hc
  have hsize : Grid.place image.width y x c < image.bytes.size := by
    simpa [bytes, ByteArray.size] using hplace
  rw [byteAt, dif_pos hsize, Grid.get, Array.getD, dif_pos (by simpa using hplace)]
  rfl

theorem ofSupplied_packed (source : String) (image : PixelBuffer) {content : ByteArray}
    (hcontent : ∀ y x c, y < image.height → x < image.width → c < 3 →
      byteAt content (Grid.place image.width y x c) = image.get y x c) :
    ofSupplied source (.array (.packed .bytes image.shape content)) = .ok image := by
  have hpacked : (StridedArray.packed .bytes image.shape content).IsImage image.height
      image.width := ⟨rfl, rfl, image.height_pos, image.width_pos⟩
  obtain ⟨image', hresult, hshows⟩ := exists_shows source rfl hpacked
  obtain ⟨hheight, hwidth⟩ := hshows.isImage.unique hpacked
  rw [hresult]
  congr 1
  apply ext_get hheight hwidth
  intro y x c hy hx hc
  have hstride : displacement (packedStrides 1 image.shape) [y, x, c] =
      (Grid.place image.width y x c : Nat) := by
    simp only [packedStrides, shape, elementCount, displacement, Grid.place, List.foldr]
    push_cast
    ring
  rw [hshows.get_eq y x c hy hx hc, ← hcontent y x c (hheight ▸ hy) (hwidth ▸ hx) hc,
    StridedArray.sample]
  congr 1
  simp only [StridedArray.packed, Int.zero_add]
  exact congrArg Int.toNat hstride

end PixelBuffer

variable {m m' m'' : Memory} {v r : ArrayView} {image q : PixelBuffer}

namespace Memory

/-- The buffers that there were are there as they were. -/
def Keeps (m m' : Memory) : Prop := ∀ k < m.buffers.size, m'.buffers[k]? = m.buffers[k]?

theorem Keeps.refl (m : Memory) : m.Keeps m := fun _ _ => rfl

theorem Keeps.size_le (h : m.Keeps m') : m.buffers.size ≤ m'.buffers.size := by
  by_contra hless
  have hlast := h m'.buffers.size (by omega)
  rw [Array.getElem?_eq_none (Nat.le_refl _), Array.getElem?_eq_getElem (by omega)] at hlast
  cases hlast

theorem Keeps.trans (h : m.Keeps m') (h' : m'.Keeps m'') : m.Keeps m'' := fun k hk =>
  (h' k (Nat.lt_of_lt_of_le hk h.size_le)).trans (h k hk)

/-- A view of a buffer that there is shows an image. -/
structure Holds (m : Memory) (v : ArrayView) (image : PixelBuffer) : Prop where
  buffer_lt : v.buffer < m.buffers.size
  image_eq : PixelBuffer.ofSupplied PixelBuffer.unnamed (.array (m.array v)) = .ok image

theorem Holds.unique (h : m.Holds v image) (h' : m.Holds v q) : image = q :=
  Except.ok.inj (h.image_eq.symm.trans h'.image_eq)

theorem Holds.of_keeps (h : m.Holds v image) (hkeeps : m.Keeps m') : m'.Holds v image := by
  refine ⟨Nat.lt_of_lt_of_le h.buffer_lt hkeeps.size_le, ?_⟩
  have harray : m'.array v = m.array v := by
    simp only [array, Array.getD_eq_getD_getElem?, hkeeps v.buffer h.buffer_lt]
  rw [harray]
  exact h.image_eq

theorem Holds.shape_eq (h : m.Holds v image) : v.type = .bytes ∧ v.shape = image.shape := by
  obtain ⟨_, hsupplied, himage⟩ := PixelBuffer.isImage_of_ofSupplied h.image_eq
  cases hsupplied
  exact ⟨himage.type_eq, himage.shape_eq⟩

/-! ## New arrays -/

theorem keeps_store (m : Memory) (type : ScalarType) (shape : List Nat) (content : ByteArray) :
    m.Keeps (m.store type shape content).2 := by
  intro k hk
  simp [store, Array.getElem?_push, Nat.ne_of_lt hk]

theorem holds_store (m : Memory) (image : PixelBuffer) {content : ByteArray}
    (hcontent : ∀ y x c, y < image.height → x < image.width → c < 3 →
      byteAt content (Grid.place image.width y x c) = image.get y x c) :
    (m.store .bytes image.shape content).2.Holds (m.store .bytes image.shape content).1 image := by
  refine ⟨by simp [store], ?_⟩
  have harray : (m.store .bytes image.shape content).2.array
      (m.store .bytes image.shape content).1 = .packed .bytes image.shape content := by
    simp [store, array, StridedArray.packed]
  rw [harray]
  exact image.ofSupplied_packed _ hcontent

theorem holds_storeGrid (m : Memory) (image : PixelBuffer) :
    (m.storeGrid image.toGrid).2.Holds (m.storeGrid image.toGrid).1 image :=
  m.holds_store image fun _ _ _ => image.byteAt_bytes

theorem Holds.copy (h : m.Holds v image) : (m.copy v).2.Holds (m.copy v).1 image := by
  obtain ⟨htype, hshape⟩ := h.shape_eq
  have hstored : (m.array v).stored = (m.array v).content := by
    have hnative : { (m.array v).type with reversed := false } = (m.array v).type := by
      simp only [array, htype]
      rfl
    rw [StridedArray.stored, hnative]
  rw [Memory.copy, htype, hshape, hstored]
  apply m.holds_store image
  intro y x c hy hx hc
  exact (((PixelBuffer.ends_ofSupplied _ _).of_ok h.image_eq).2 y x c hy hx hc).symm

theorem Holds.ordered (h : m.Holds v image) :
    m.Keeps (m.ordered v).2 ∧ (m.ordered v).2.Holds (m.ordered v).1 image := by
  unfold Memory.ordered
  split
  · exact ⟨.refl m, h⟩
  · exact ⟨m.keeps_store _ _ _, h.copy⟩

end Memory

/-! ## Resizing -/

namespace Resize

theorem resolveDimension_nonneg {requested : Int} {source : Nat} (h : 0 ≤ requested) :
    0 ≤ resolveDimension requested source := by
  unfold resolveDimension
  split <;> omega

theorem resolveDimension_idem (requested source : Int) :
    resolveDimension requested (resolveDimension requested source) =
      resolveDimension requested source := by
  unfold resolveDimension
  split <;> rfl

end Resize

namespace Memory

variable {resample : Resampler} {width height : Int}

theorem Holds.resize_eq (h : m.Holds v image) (resample : Resampler) (width height : Int) :
    m.resize resample (.array v) (.int width) (.int height) =
      if width < 0 ∨ height < 0 then Failure.raise (.negativeSize width height)
      else if resolveDimension height image.height = image.height ∧
          resolveDimension width image.width = image.width then
        .ok ((m.ordered v).2.copy (m.ordered v).1)
      else
        (resample image (resolveDimension height image.height).toNat
          (resolveDimension width image.width).toNat).map fun q =>
            let stored := (m.ordered v).2.storeGrid q.toGrid
            stored.2.ordered stored.1 := by
  have hsize : resolveSize (.tuple [.int image.height, .int image.width]) (.int width)
      (.int height) = if width < 0 ∨ height < 0 then Failure.raise (.negativeSize width height)
        else .ok (resolveDimension height image.height, resolveDimension width image.width) := rfl
  rw [resize, h.image_eq]
  simp only [ok_bind, hsize]
  split
  · simp only [Failure.raise]
    rfl
  · next hnonnegative =>
    -- The sizes are natural numbers from here on, so they are compared as such.
    have hrows : 0 ≤ resolveDimension height image.height := resolveDimension_nonneg (by omega)
    have hcolumns : 0 ≤ resolveDimension width image.width := resolveDimension_nonneg (by omega)
    have hsame : (resolveDimension height image.height).toNat = image.height ∧
        (resolveDimension width image.width).toNat = image.width ↔
          resolveDimension height image.height = image.height ∧
            resolveDimension width image.width = image.width := by omega
    rw [ok_bind, PixelBuffer.resized?]
    simp only [hsame]
    split
    · rfl
    · cases resample image (resolveDimension height image.height).toNat
        (resolveDimension width image.width).toNat <;> rfl

theorem Holds.resize_negative (h : m.Holds v image) (resample : Resampler)
    (hnegative : width < 0 ∨ height < 0) :
    ∃ f, m.resize resample (.array v) (.int width) (.int height) = .error f ∧
      f.refusesValue = true := by
  rw [h.resize_eq, if_pos hnegative, Failure.raise]
  refine ⟨_, rfl, ?_⟩
  split <;> rfl

theorem Holds.resize_same (h : m.Holds v image) (resample : Resampler) (hwidth : 0 ≤ width)
    (hheight : 0 ≤ height) (hsameHeight : resolveDimension height image.height = image.height)
    (hsameWidth : resolveDimension width image.width = image.width) :
    ∃ r m', m.resize resample (.array v) (.int width) (.int height) = .ok (r, m') ∧
      m.buffers.size ≤ r.buffer ∧ m.Keeps m' ∧ m'.Holds r image := by
  obtain ⟨hkeeps, hordered⟩ := h.ordered
  refine ⟨_, _, ?_, hkeeps.size_le, hkeeps.trans (keeps_store _ _ _ _), hordered.copy⟩
  rw [h.resize_eq, if_neg (by omega), if_pos ⟨hsameHeight, hsameWidth⟩]
  rfl

/-- Whatever the size, the array has it and no buffer of the caller is written to. -/
theorem Holds.of_resize (h : m.Holds v image) (hobeys : resample.Obeys)
    (hresult : m.resize resample (.array v) (.int width) (.int height) = .ok (r, m')) :
    0 ≤ width ∧ 0 ≤ height ∧ m.Keeps m' ∧
      ∃ q, m'.Holds r q ∧ q.height = resolveDimension height image.height ∧
        q.width = resolveDimension width image.width := by
  by_cases hnegative : width < 0 ∨ height < 0
  · obtain ⟨f, hf, -⟩ := h.resize_negative resample hnegative
    cases hf.symm.trans hresult
  have hwidth : 0 ≤ width := by omega
  have hheight : 0 ≤ height := by omega
  refine ⟨hwidth, hheight, ?_⟩
  by_cases hsame : resolveDimension height image.height = image.height ∧
      resolveDimension width image.width = image.width
  · obtain ⟨r', m'', hcopied, -, hkeeps, hholds⟩ :=
      h.resize_same resample hwidth hheight hsame.1 hsame.2
    cases hcopied.symm.trans hresult
    exact ⟨hkeeps, image, hholds, hsame.1.symm, hsame.2.symm⟩
  · have hrows : 0 ≤ resolveDimension height image.height := resolveDimension_nonneg hheight
    have hcolumns : 0 ≤ resolveDimension width image.width := resolveDimension_nonneg hwidth
    rw [h.resize_eq, if_neg hnegative, if_neg hsame, map_eq_ok] at hresult
    obtain ⟨q, hq, hstored⟩ := hresult
    obtain ⟨hqheight, hqwidth⟩ := hobeys _ _ _ _ hq
    obtain ⟨hkeeps, hholds⟩ := ((m.ordered v).2.holds_storeGrid q).ordered
    rw [hstored] at hkeeps hholds
    refine ⟨h.ordered.1.trans ((keeps_store _ _ _ _).trans hkeeps), q, hholds, ?_, ?_⟩
    · exact (congrArg Int.ofNat hqheight).trans (Int.toNat_of_nonneg hrows)
    · exact (congrArg Int.ofNat hqwidth).trans (Int.toNat_of_nonneg hcolumns)

/-- A resize refuses a negative length. Where the size comes out as the image's own it gives a copy,
and any array that it gives has the size asked for, leaves the image that was passed as it was, and
is not changed by the same resize again. -/
theorem resize_resolves (hobeys : resample.Obeys) (h : m.Holds v image) (width height : Int) :
    let resized := m.resize resample (.array v) (.int width) (.int height)
    let rows := if height = 0 then (image.height : Int) else height
    let columns := if width = 0 then (image.width : Int) else width
    (width < 0 ∨ height < 0 → ∃ f, resized = .error f ∧ f.refusesValue = true) ∧
    (0 ≤ width → 0 ≤ height → rows = image.height ∧ columns = image.width →
      ∃ r m', resized = .ok (r, m')) ∧
    ∀ r m', resized = .ok (r, m') →
      ∃ q, m'.Holds r q ∧ r.type = .bytes ∧ r.shape.map Int.ofNat = [rows, columns, 3] ∧
        (rows = image.height ∧ columns = image.width →
          m.buffers.size ≤ r.buffer ∧ q = image) ∧
        m.Keeps m' ∧ m'.Holds v image ∧
        ∃ r' m'', m'.resize resample (.array r) (.int width) (.int height) = .ok (r', m'') ∧
          m''.Holds r' q := by
  intro resized rows columns
  refine ⟨h.resize_negative resample, ?_, ?_⟩
  · intro hwidth hheight hsame
    obtain ⟨r, m', hresult, -⟩ := h.resize_same resample hwidth hheight hsame.1 hsame.2
    exact ⟨r, m', hresult⟩
  · intro r m' hresult
    obtain ⟨hwidth, hheight, hkeeps, q, hq, hqheight, hqwidth⟩ := h.of_resize hobeys hresult
    obtain ⟨htype, hshape⟩ := hq.shape_eq
    refine ⟨q, hq, htype, ?_, ?_, hkeeps, h.of_keeps hkeeps, ?_⟩
    · rw [hshape]
      simp only [PixelBuffer.shape, List.map, Int.ofNat_eq_natCast, hqheight, hqwidth]
      rfl
    · intro hsame
      obtain ⟨r', m'', hcopied, hfresh, -, hholds⟩ :=
        h.resize_same resample hwidth hheight hsame.1 hsame.2
      cases hcopied.symm.trans hresult
      exact ⟨hfresh, hq.unique hholds⟩
    · obtain ⟨r', m'', hagain, -, -, hholds⟩ := hq.resize_same resample hwidth hheight
        (by rw [hqheight, resolveDimension_idem]) (by rw [hqwidth, resolveDimension_idem])
      exact ⟨r', m'', hagain, hholds⟩

/-- Two by two pixels in a buffer, and a view of them from right to left. -/
def fourPixels : Memory := ⟨#[⟨#[1, 2, 3, 4, 5, 6, 7, 8, 9, 10, 11, 12]⟩]⟩

def mirroredPixels : ArrayView := ⟨.bytes, [2, 2, 3], [6, -3, 1], 3, 0⟩

theorem exists_holds_fourPixels :
    ∃ image, fourPixels.Holds mirroredPixels image ∧ image.height = 2 ∧ image.width = 2 := by
  have hmirrored : (fourPixels.array mirroredPixels).IsImage 2 2 :=
    ⟨rfl, rfl, by decide, by decide⟩
  obtain ⟨image, hsupplied, hshows⟩ := PixelBuffer.exists_shows PixelBuffer.unnamed rfl hmirrored
  exact ⟨image, ⟨by decide, hsupplied⟩, hshows.isImage.unique hmirrored⟩

theorem resize_resolves_fourPixels :
    ∃ image, fourPixels.Holds mirroredPixels image ∧
      (∃ f, fourPixels.resize .bilinear (.array mirroredPixels) (.int (-1)) (.int 0) = .error f ∧
        f.refusesValue = true) ∧
      (∃ r m', fourPixels.resize .bilinear (.array mirroredPixels) (.int 0) (.int 2) =
          .ok (r, m') ∧
        m'.Holds r image ∧ 1 ≤ r.buffer) ∧
      ∃ r m' q, fourPixels.resize .bilinear (.array mirroredPixels) (.int 1) (.int 1) =
          .ok (r, m') ∧
        m'.Holds r q ∧ r.shape.map Int.ofNat = [1, 1, 3] ∧ m'.Holds mirroredPixels image := by
  obtain ⟨image, hheld, hheight, -⟩ := exists_holds_fourPixels
  have resolves := resize_resolves Resampler.bilinear_obeys hheld
  refine ⟨image, hheld, (resolves (-1) 0).1 (by decide), ?_, ?_⟩
  · have hsame : (2 : Int) = image.height ∧ (image.width : Int) = image.width := by simp [hheight]
    obtain ⟨r, m', hresult⟩ := (resolves 0 2).2.1 (by decide) (by decide) hsame
    obtain ⟨q, hq, -, -, hcopied, -⟩ := (resolves 0 2).2.2 r m' hresult
    obtain ⟨hfresh, rfl⟩ := hcopied hsame
    exact ⟨r, m', hresult, hq, hfresh⟩
  · have hresult := eq_ok_getD_of_isOk (by decide +kernel : (fourPixels.resize .bilinear
      (.array mirroredPixels) (.int 1) (.int 1)).isOk = true) (mirroredPixels, fourPixels)
    obtain ⟨q, hq, -, hshape, -, -, hkept, -⟩ := (resolves 1 1).2.2 _ _ hresult
    exact ⟨_, _, q, hresult, hq, hshape, hkept⟩

end Memory

end RasterTensor
