import Mathlib.Data.Set.Function
import Mathlib.Order.Interval.Set.Defs
import RasterTensor.Conversion
import RasterTensor.Proofs.Outcomes
import RasterTensor.Proofs.Tensor.Elements

/-!
# Elements by their index

An index has a number for each axis, and the last axis runs fastest. In either layout the element
at the index of a row, a column and a channel is the entry of that row, column and channel, so
normalization puts there what it makes of the sample.
-/

namespace RasterTensor

open Binary

/-! ## Places and their digits -/

/-- Every number below a product of three is made in one way of digits below the three. -/
theorem bijOn_digits (l m n : Nat) :
    Set.BijOn (fun d : Nat × Nat × Nat => (d.1 * m + d.2.1) * n + d.2.2)
      {d | d.1 < l ∧ d.2.1 < m ∧ d.2.2 < n} (Set.Iio (l * m * n)) := by
  refine ⟨?_, ?_, ?_⟩
  · rintro ⟨i, j, r⟩ ⟨hi, hj, hr⟩
    exact mul_add_lt_mul (mul_add_lt_mul hi hj) hr
  · rintro ⟨i, j, r⟩ ⟨-, hj, hr⟩ ⟨i', j', r'⟩ ⟨-, hj', hr'⟩ heq
    obtain ⟨hrow, rfl⟩ := digits_inj hr hr' heq
    obtain ⟨rfl, rfl⟩ := digits_inj hj hj' hrow
    rfl
  · intro k hk
    rw [Set.mem_Iio] at hk
    have hn : 0 < n := Nat.pos_of_ne_zero fun hzero => by simp [hzero] at hk
    have hm : 0 < m := Nat.pos_of_ne_zero fun hzero => by simp [hzero] at hk
    refine ⟨(k / n / m, k / n % m, k % n), ⟨?_, Nat.mod_lt _ hm, Nat.mod_lt _ hn⟩, ?_⟩
    · rwa [Nat.div_lt_iff_lt_mul hm, Nat.div_lt_iff_lt_mul hn]
    · dsimp only
      rw [Nat.div_add_mod', Nat.div_add_mod']

/-! ## Layouts -/

/-- Whether an index has a number for each axis, below its length. -/
def isWithin (shape index : List Nat) : Bool :=
  index.length == shape.length && (shape.zip index).all fun axis => axis.2 < axis.1

/-- The place of an index among the elements in order. -/
def placeOfIndex (shape index : List Nat) : Nat :=
  (shape.zip index).foldl (fun k axis => k * axis.1 + axis.2) 0

/-- The index of a channel of a pixel in the order of a layout. -/
def Layout.index : Layout → (y x c : Nat) → List Nat
  | .nhwc, y, x, c => [0, y, x, c]
  | .nchw, y, x, c => [0, c, y, x]

namespace Layout

variable {layout : Layout} {h w y x c : Nat}

theorem elementCount_shape (layout : Layout) (h w : Nat) :
    elementCount (layout.shape h w) = h * w * 3 := by
  cases layout with
  | nhwc => simp [elementCount, shape, Nat.mul_assoc]
  | nchw => simp [elementCount, shape, Nat.mul_comm 3]

theorem isWithin_index (hy : y < h) (hx : x < w) (hc : c < 3) :
    isWithin (layout.shape h w) (layout.index y x c) = true := by
  cases layout <;> simp [isWithin, shape, index, hy, hx, hc]

theorem placeOfIndex_nhwc (h w y x c : Nat) :
    placeOfIndex (shape .nhwc h w) (index .nhwc y x c) = Grid.place w y x c := by
  simp [placeOfIndex, shape, index, Grid.place]

theorem placeOfIndex_nchw (h w y x c : Nat) :
    placeOfIndex (shape .nchw h w) (index .nchw y x c) = (c * h + y) * w + x := by
  simp [placeOfIndex, shape, index]

end Layout

namespace Grid

variable {α β : Type} [Inhabited α] [Inhabited β] {y x c : Nat}

theorem get_map (f : α → β) (g : Grid α) (hy : y < g.height) (hx : x < g.width) (hc : c < 3) :
    (g.map f).get y x c = f (g.get y x c) := by
  have hplace := place_lt hy hx hc
  simp [get, map, Array.getD, hplace]

@[simp] theorem size_flatten (g : Grid α) (layout : Layout) :
    (g.flatten layout).size = g.height * g.width * 3 := by
  cases layout with
  | nhwc => simp [flatten, toArray]
  | nchw => rw [flatten, Array.size_ofFn, Nat.mul_assoc, Nat.mul_comm]

theorem get_mem (g : Grid α) (hy : y < g.height) (hx : x < g.width) (hc : c < 3) :
    g.get y x c ∈ g.toArray := by
  have hplace := place_lt hy hx hc
  simp [get, toArray, Array.getD, hplace]

theorem get_eq_getElem (g : Grid α) (h : place g.width y x c < g.cells.toArray.size) :
    g.get y x c = g.cells.toArray[place g.width y x c] := by
  rw [get, Array.getD, dif_pos h]
  rfl

theorem exists_place {h w k : Nat} (hk : k < h * w * 3) :
    ∃ y x c, y < h ∧ x < w ∧ c < 3 ∧ place w y x c = k := by
  obtain ⟨⟨y, x, c⟩, ⟨hy, hx, hc⟩, hplace⟩ := (bijOn_digits h w 3).surjOn hk
  exact ⟨y, x, c, hy, hx, hc, hplace⟩

theorem mem_toArray {g : Grid α} {a : α} :
    a ∈ g.toArray ↔ ∃ y x c, y < g.height ∧ x < g.width ∧ c < 3 ∧ g.get y x c = a := by
  constructor
  · intro ha
    obtain ⟨k, hk, rfl⟩ := Array.mem_iff_getElem.mp ha
    have hsize := g.cells.size_toArray
    obtain ⟨y, x, c, hy, hx, hc, rfl⟩ := exists_place (hsize ▸ hk)
    exact ⟨y, x, c, hy, hx, hc, g.get_eq_getElem hk⟩
  · rintro ⟨y, x, c, hy, hx, hc, rfl⟩
    exact g.get_mem hy hx hc

theorem ext_get {g g' : Grid α} (hheight : g.height = g'.height) (hwidth : g.width = g'.width)
    (h : ∀ y x c, y < g.height → x < g.width → c < 3 → g.get y x c = g'.get y x c) : g = g' := by
  obtain ⟨height, width, cells⟩ := g
  obtain ⟨height', width', cells'⟩ := g'
  cases hheight
  cases hwidth
  congr
  ext k hk
  obtain ⟨y, x, c, hy, hx, hc, rfl⟩ := exists_place hk
  have hget := h y x c hy hx hc
  rwa [get_eq_getElem _ (by simpa using hk), get_eq_getElem _ (by simpa using hk)] at hget

theorem mem_of_mem_flatten {g : Grid α} {layout : Layout} {a : α} (h : a ∈ g.flatten layout) :
    a ∈ g.toArray := by
  cases layout with
  | nhwc => exact h
  | nchw =>
      obtain ⟨⟨k, hk⟩, rfl⟩ := Array.mem_ofFn.mp h
      have hw : 0 < g.width := Nat.pos_of_ne_zero fun hzero => by simp [hzero] at hk
      have hh : 0 < g.height := Nat.pos_of_ne_zero fun hzero => by simp [hzero] at hk
      have hrow : k / g.width < 3 * g.height := by rwa [Nat.div_lt_iff_lt_mul hw]
      have hchannel : k / g.width / g.height < 3 := by rwa [Nat.div_lt_iff_lt_mul hh]
      exact g.get_mem (Nat.mod_lt _ hh) (Nat.mod_lt _ hw) hchannel

/-- Each layout has the entries of the grid at the places of their indices. -/
theorem getElem?_flatten (g : Grid α) (layout : Layout) (hy : y < g.height) (hx : x < g.width)
    (hc : c < 3) :
    (g.flatten layout)[placeOfIndex (layout.shape g.height g.width) (layout.index y x c)]? =
      some (g.get y x c) := by
  cases layout with
  | nhwc =>
      have hplace := place_lt hy hx hc
      rw [Layout.placeOfIndex_nhwc]
      simp [flatten, toArray, get, Array.getD, hplace]
  | nchw =>
      obtain ⟨hcolumn, hx'⟩ := div_mod_of_lt (k := c * g.height + y) hx
      obtain ⟨hchannel, hy'⟩ := div_mod_of_lt (k := c) hy
      have hplace : (c * g.height + y) * g.width + x < 3 * g.height * g.width :=
        mul_add_lt_mul (mul_add_lt_mul hc hy) hx
      rw [Layout.placeOfIndex_nchw]
      simp [flatten, hplace, hcolumn, hx', hchannel, hy']

end Grid

namespace Tensor

/-- The element at an index, if there is one. -/
def at? (t : Tensor) (index : List Nat) : Option UInt32 :=
  if isWithin t.shape index then t.words[placeOfIndex t.shape index]? else none

theorem at?_of_isWithin {t : Tensor} {index : List Nat} (h : isWithin t.shape index = true) :
    t.at? index = t.words[placeOfIndex t.shape index]? := if_pos h

end Tensor

@[simp] theorem PerChannel.get_ofFn {α : Type} (f : Fin 3 → α) (c : Fin 3) :
    (PerChannel.ofFn f).get c = f c := by
  match c with
  | 0 | 1 | 2 => rfl

namespace Parameters

variable {p : Parameters} {image : PixelBuffer}

theorem getCyclic_channelTables (p : Parameters) (c : Fin 3) :
    p.channelTables.getCyclic c = p.channelTable c := by
  have hc : Fin.ofNat 3 c.val = c := Fin.ext (Nat.mod_eq_of_lt c.isLt)
  rw [channelTables, PerChannel.getCyclic, hc, PerChannel.get_ofFn]

theorem apply_eq_ok {values : Grid Binary32} (h : p.apply image = .ok values) :
    values.height = image.height ∧ values.width = image.width ∧
      ∀ y x (c : Fin 3), y < image.height → x < image.width →
        values.get y x c = p.affine c (image.get y x (p.sourceChannel c)) := by
  unfold apply at h
  dsimp only at h
  split at h
  · cases h
  · cases h
    refine ⟨rfl, rfl, fun y x c hy hx => ?_⟩
    rw [Grid.get_ofFn _ hy hx c.isLt, getCyclic_channelTables, getD_channelTable]

/-- The elements of a normalized image: one for each sample, in the order of the layout. -/
theorem normalize_eq_ok {layout : Layout} {element : ElementType} {tensor : Tensor}
    (h : p.normalize image layout element = .ok tensor) :
    tensor.element = element ∧ tensor.Fits ∧
      tensor.words.size = image.height * image.width * 3 ∧
      ∀ y x (c : Fin 3), y < image.height → x < image.width →
        tensor.words[placeOfIndex (layout.shape image.height image.width)
            (layout.index y x c)]? =
          some (element.finalize (p.affine c (image.get y x (p.sourceChannel c)))) := by
  simp only [normalize, bind_eq_ok, pure_eq_ok] at h
  obtain ⟨values, happly, rfl⟩ := h
  obtain ⟨hheight, hwidth, hvalues⟩ := apply_eq_ok happly
  refine ⟨rfl, ?_, ?_, fun y x c hy hx => ?_⟩
  · intro w hw
    have hcells := Grid.mem_of_mem_flatten hw
    rw [Grid.toArray, Grid.map, Vector.toArray_map, Array.mem_map] at hcells
    obtain ⟨x, -, rfl⟩ := hcells
    exact element.finalize_lt x
  · simp [hheight, hwidth]
  · have hat := (values.map element.finalize).getElem?_flatten layout (y := y) (x := x)
      (c := c) (by simpa [hheight] using hy) (by simpa [hwidth] using hx) c.isLt
    simp only [Grid.height_map, Grid.width_map, hheight, hwidth] at hat
    rw [hat, Grid.get_map _ _ (hheight ▸ hy) (hwidth ▸ hx) c.isLt, hvalues y x c hy hx]

end Parameters

end RasterTensor
