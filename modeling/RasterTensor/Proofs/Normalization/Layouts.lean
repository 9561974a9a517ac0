import RasterTensor.Proofs.Normalization.Pointwise

/-!
# Layouts are permutations of each other

The layout has no part in whether an image is normalized, nor in the values of the elements. It only
decides about their order, and each order goes through every sample once.
-/

namespace RasterTensor

open Binary Document

namespace Layout

theorem bijOn_nhwc (h w : Nat) :
    Set.BijOn (fun d : Nat × Nat × Nat => (d.1 * w + d.2.1) * 3 + d.2.2)
      {d | d.1 < h ∧ d.2.1 < w ∧ d.2.2 < 3} (Set.Iio (3 * h * w)) := by
  have hdigits := bijOn_digits h w 3
  rwa [Nat.mul_comm (h * w), ← Nat.mul_assoc] at hdigits

theorem bijOn_nchw (h w : Nat) :
    Set.BijOn (fun d : Nat × Nat × Nat => (d.2.2 * h + d.1) * w + d.2.1)
      {d | d.1 < h ∧ d.2.1 < w ∧ d.2.2 < 3} (Set.Iio (3 * h * w)) := by
  have hrotated : Set.BijOn (fun d : Nat × Nat × Nat => (d.2.2, d.1, d.2.1))
      {d | d.1 < h ∧ d.2.1 < w ∧ d.2.2 < 3} {d | d.1 < 3 ∧ d.2.1 < h ∧ d.2.2 < w} := by
    refine ⟨?_, ?_, ?_⟩
    · rintro ⟨y, x, c⟩ ⟨hy, hx, hc⟩
      exact ⟨hc, hy, hx⟩
    · rintro ⟨y, x, c⟩ - ⟨y', x', c'⟩ - heq
      cases heq
      rfl
    · rintro ⟨c, y, x⟩ ⟨hc, hy, hx⟩
      exact ⟨(y, x, c), ⟨hy, hx, hc⟩, rfl⟩
  exact (bijOn_digits 3 h w).comp hrotated

end Layout

namespace Parameters

variable {reach : Reach} {p : Parameters} {supplied : Supplied} {values : Grid Binary32}
  {layout : Layout} {layoutValue elementType : Value} {element : ElementType}

theorem isImage_of_applySupplied (h : p.applySupplied supplied = .ok values) :
    ∃ a, supplied = .array a ∧ a.IsImage values.height values.width := by
  rw [applySupplied, bind_eq_ok] at h
  obtain ⟨image, hsupplied, happly⟩ := h
  obtain ⟨hheight, hwidth, -⟩ := apply_eq_ok happly
  rw [hheight, hwidth]
  exact PixelBuffer.isImage_of_ofSupplied hsupplied

theorem normalizeSupplied_eq (hlayout : Layout.ofValue reach layoutValue = .ok layout) :
    p.normalizeSupplied reach supplied layoutValue elementType = (do
      let element ← ElementType.ofValue reach elementType
      let values ← p.applySupplied supplied
      let words := (values.map element.finalize).flatten layout
      return ⟨element, [words.size], words⟩) := by
  simp only [normalizeSupplied, hlayout, ok_bind]

/-- An image of some size is normalized in both layouts or in none. In both, its elements are the
same, and the places that the layouts give to them are each taken once. -/
theorem normalizeSupplied_layouts (p : Parameters) (supplied : Supplied) (elementType : Value)
    {nhwc nchw : Value} (hnhwc : Layout.ofValue reach nhwc = .ok .nhwc)
    (hnchw : Layout.ofValue reach nchw = .ok .nchw) :
    (∃ f, p.normalizeSupplied reach supplied nhwc elementType = .error f ∧
      p.normalizeSupplied reach supplied nchw elementType = .error f) ∨
    ∃ a h w t t', supplied = .array a ∧ a.IsImage h w ∧
      p.normalizeSupplied reach supplied nhwc elementType = .ok t ∧
      p.normalizeSupplied reach supplied nchw elementType = .ok t' ∧
      t.element = t'.element ∧ t.words.size = 3 * h * w ∧ t'.words.size = 3 * h * w ∧
      (∀ y x c, y < h → x < w → c < 3 → ∃ word,
        t'.words[(c * h + y) * w + x]? = some word ∧
          t.words[(y * w + x) * 3 + c]? = some word) ∧
      Set.BijOn (fun d : Nat × Nat × Nat => (d.1 * w + d.2.1) * 3 + d.2.2)
        {d | d.1 < h ∧ d.2.1 < w ∧ d.2.2 < 3} (Set.Iio (3 * h * w)) ∧
      Set.BijOn (fun d : Nat × Nat × Nat => (d.2.2 * h + d.1) * w + d.2.1)
        {d | d.1 < h ∧ d.2.1 < w ∧ d.2.2 < 3} (Set.Iio (3 * h * w)) := by
  rw [normalizeSupplied_eq hnhwc, normalizeSupplied_eq hnchw]
  cases ElementType.ofValue reach elementType with
  | error f => exact .inl ⟨f, rfl, rfl⟩
  | ok element =>
  cases hvalues : p.applySupplied supplied with
  | error f => exact .inl ⟨f, rfl, rfl⟩
  | ok values =>
  obtain ⟨a, ha, himage⟩ := isImage_of_applySupplied hvalues
  have hsize (layout : Layout) : ((values.map element.finalize).flatten layout).size =
      3 * values.height * values.width := by
    rw [Grid.size_flatten, Nat.mul_comm, ← Nat.mul_assoc]
    rfl
  refine .inr ⟨a, values.height, values.width, _, _, ha, himage, rfl, rfl, rfl, hsize .nhwc,
    hsize .nchw, fun y x c hy hx hc => ?_, Layout.bijOn_nhwc _ _, Layout.bijOn_nchw _ _⟩
  have hfirst := (values.map element.finalize).getElem?_flatten .nhwc hy hx hc
  have hsecond := (values.map element.finalize).getElem?_flatten .nchw hy hx hc
  rw [Layout.placeOfIndex_nhwc] at hfirst
  rw [Layout.placeOfIndex_nchw] at hsecond
  exact ⟨_, hsecond, hfirst⟩

def twoRows : StridedArray := .packed .bytes [2, 1, 3] ⟨#[1, 2, 3, 4, 5, 6]⟩

theorem normalizeSupplied_layouts_twoRows :
    ∃ t t',
      identity.normalizeSupplied .flat (.array twoRows) (.text "nhwc") (.text "qasymm8") = .ok t ∧
      identity.normalizeSupplied .flat (.array twoRows) (.text "nchw") (.text "qasymm8") = .ok t' ∧
      t.words.size = 6 ∧ ∃ word, t'.words[2]? = some word ∧ t.words[1]? = some word := by
  have hnhwc : Layout.ofValue .flat (.text "nhwc") = .ok .nhwc := rfl
  have hnchw : Layout.ofValue .flat (.text "nchw") = .ok .nchw := rfl
  have helement : ElementType.ofValue .flat (.text "qasymm8") = .ok .quantized8 := rfl
  have himage : twoRows.IsImage 2 1 := ⟨rfl, rfl, Nat.two_pos, Nat.one_pos⟩
  obtain ⟨image, -, -, -, hresult⟩ := exists_applySupplied identity rfl himage
  have haccepts : ∀ v ∈ image.toGrid.toArray, identity.Accepts v := fun v _ =>
    accepts_of_range rfl rfl v
  obtain ⟨values, hvalues⟩ := exists_apply haccepts
  obtain ⟨f, hfails, -⟩ | ⟨a, h, w, t, t', ha, himage', ht, ht', -, hsize, -, hwords, -⟩ :=
    normalizeSupplied_layouts identity (.array twoRows) (.text "qasymm8") hnhwc hnchw
  · rw [normalizeSupplied_eq hnhwc, helement, hresult, hvalues] at hfails
    cases hfails
  · cases ha
    obtain ⟨rfl, rfl⟩ := himage.unique himage'
    exact ⟨t, t', ht, ht', hsize, hwords 0 0 1 Nat.two_pos Nat.one_pos (by decide)⟩

end Parameters

end RasterTensor
