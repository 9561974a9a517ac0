import Mathlib.Order.Bounds.Basic
import RasterTensor.Proofs.Tensor.Images

/-!
# Normalization sample by sample

An image is normalized exactly if all of its samples lie in the range of the parameters. Every value
is made of one sample, with the offset and the scale of the channel that the value is for.
-/

namespace RasterTensor

open Binary

/-! ## The ends of a range of samples -/

section extremes

variable {samples : Array UInt8} {v : UInt8}

theorem extremes_eq (samples : Array UInt8) :
    extremes samples = ((samples.toList.map UInt8.toNat).foldl min 255,
      (samples.toList.map UInt8.toNat).foldl max 0) := by
  rw [extremes, ← Array.foldl_toList]
  generalize 255 = low
  generalize 0 = high
  induction samples.toList generalizing low high with
  | nil => rfl
  | cons v rest ih => exact ih _ _

theorem mem_map_toNat {n : Nat} :
    n ∈ samples.toList.map UInt8.toNat ↔ n ∈ UInt8.toNat '' {v | v ∈ samples} := by
  simp

theorem isLeast_extremes (hv : v ∈ samples) :
    IsLeast (UInt8.toNat '' {v | v ∈ samples}) (extremes samples).1 := by
  have hmem := mem_map_toNat.mpr (Set.mem_image_of_mem UInt8.toNat hv)
  obtain ⟨least, hleast⟩ := Option.isSome_iff_exists.mp (List.isSome_min?_of_mem hmem)
  obtain ⟨hattained, hlower⟩ := List.min?_eq_some_iff.mp hleast
  have hle : least ≤ 255 := (hlower _ hmem).trans (Nat.le_of_lt_succ v.toNat_lt)
  have hfirst : (extremes samples).1 = least := by
    rw [extremes_eq, List.foldl_min, hleast, Option.getD_some]
    exact Nat.min_eq_right hle
  rw [hfirst]
  exact ⟨mem_map_toNat.mp hattained, fun n hn => hlower n (mem_map_toNat.mpr hn)⟩

theorem isGreatest_extremes (hv : v ∈ samples) :
    IsGreatest (UInt8.toNat '' {v | v ∈ samples}) (extremes samples).2 := by
  have hmem := mem_map_toNat.mpr (Set.mem_image_of_mem UInt8.toNat hv)
  obtain ⟨greatest, hgreatest⟩ := Option.isSome_iff_exists.mp (List.isSome_max?_of_mem hmem)
  obtain ⟨hattained, hupper⟩ := List.max?_eq_some_iff.mp hgreatest
  have hsecond : (extremes samples).2 = greatest := by
    rw [extremes_eq, List.foldl_max, hgreatest, Option.getD_some]
    exact Nat.max_eq_right (Nat.zero_le _)
  rw [hsecond]
  exact ⟨mem_map_toNat.mp hattained, fun n hn => hupper n (mem_map_toNat.mpr hn)⟩

end extremes

namespace PixelBuffer

theorem isLeast_extremes (image : PixelBuffer) :
    IsLeast (UInt8.toNat '' {v | v ∈ image.toGrid.toArray}) (extremes image.cells.toArray).1 :=
  RasterTensor.isLeast_extremes
    (image.get_mem image.height_pos image.width_pos (Nat.zero_lt_succ 2))

theorem isGreatest_extremes (image : PixelBuffer) :
    IsGreatest (UInt8.toNat '' {v | v ∈ image.toGrid.toArray})
      (extremes image.cells.toArray).2 :=
  RasterTensor.isGreatest_extremes
    (image.get_mem image.height_pos image.width_pos (Nat.zero_lt_succ 2))

end PixelBuffer

namespace Parameters

variable {p : Parameters} {a : StridedArray} {image image' : PixelBuffer}

/-- A sample lies in the range of the parameters. -/
def Accepts (p : Parameters) (v : UInt8) : Prop := p.low ≤ v.toNat ∧ v.toNat ≤ p.high

theorem accepts_of_range (hlow : p.low = 0) (hhigh : p.high = 255) (v : UInt8) : p.Accepts v := by
  have hlt := v.toNat_lt
  constructor <;> omega

theorem not_outside_iff (p : Parameters) (image : PixelBuffer) :
    ¬ (((extremes image.cells.toArray).1 : Int) < p.low ∨
        p.high < ((extremes image.cells.toArray).2 : Int)) ↔
      ∀ v ∈ image.toGrid.toArray, p.Accepts v := by
  obtain ⟨⟨least, hleast, hfirst⟩, hlower⟩ := image.isLeast_extremes
  obtain ⟨⟨greatest, hgreatest, hsecond⟩, hupper⟩ := image.isGreatest_extremes
  rw [not_or, not_lt, not_lt]
  constructor
  · rintro ⟨hlow, hhigh⟩ v hv
    have hleast := hlower (Set.mem_image_of_mem UInt8.toNat hv)
    have hgreatest := hupper (Set.mem_image_of_mem UInt8.toNat hv)
    constructor <;> omega
  · intro h
    rw [← hfirst, ← hsecond]
    exact ⟨(h least hleast).1, (h greatest hgreatest).2⟩

theorem exists_apply (h : ∀ v ∈ image.toGrid.toArray, p.Accepts v) :
    ∃ values, p.apply image = .ok values := by
  unfold apply
  dsimp only
  rw [if_neg ((not_outside_iff p image).mpr h)]
  exact ⟨_, rfl⟩

theorem apply_of_not_accepts {v : UInt8} (hv : v ∈ image.toGrid.toArray) (h : ¬ p.Accepts v) :
    p.apply image = Failure.raise (.outsideRange (extremes image.cells.toArray).1
      (extremes image.cells.toArray).2 p.low p.high) := by
  have houtside := mt (not_outside_iff p image).mp fun hall => h (hall v hv)
  unfold apply
  dsimp only
  rw [if_pos (not_not.mp houtside)]

/-! ## Exchanged channels -/

theorem sourceChannel_lt (p : Parameters) {c : Nat} (hc : c < 3) : p.sourceChannel c < 3 := by
  unfold sourceChannel
  split <;> omega

theorem sourceChannel_not_swap (p : Parameters) {c : Nat} (hc : c < 3) :
    ({ p with swap := !p.swap } : Parameters).sourceChannel c = 2 - p.sourceChannel c := by
  unfold sourceChannel
  cases p.swap with
  | false => rfl
  | true =>
    simp only [Bool.not_true, Bool.false_eq_true, if_false, if_true]
    omega

/-- One image holds the samples of the other with the channels in reverse order. -/
structure Mirrored (image image' : PixelBuffer) : Prop where
  height_eq : image'.height = image.height
  width_eq : image'.width = image.width
  get_eq : ∀ y x c, y < image.height → x < image.width → c < 3 →
    image'.get y x c = image.get y x (2 - c)

theorem Mirrored.mem_iff (h : Mirrored image image') {v : UInt8} :
    v ∈ image'.toGrid.toArray ↔ v ∈ image.toGrid.toArray := by
  rw [Grid.mem_toArray, Grid.mem_toArray, h.height_eq, h.width_eq]
  constructor
  · rintro ⟨y, x, c, hy, hx, hc, rfl⟩
    exact ⟨y, x, 2 - c, hy, hx, by omega, (h.get_eq y x c hy hx hc).symm⟩
  · rintro ⟨y, x, c, hy, hx, hc, rfl⟩
    have hback : 2 - (2 - c) = c := by omega
    have hget := h.get_eq y x (2 - c) hy hx (by omega)
    rw [hback] at hget
    exact ⟨y, x, 2 - c, hy, hx, by omega, hget⟩

theorem Mirrored.extremes_eq (h : Mirrored image image') :
    extremes image'.cells.toArray = extremes image.cells.toArray := by
  have hsame : {v | v ∈ image'.toGrid.toArray} = {v | v ∈ image.toGrid.toArray} :=
    Set.ext fun v => h.mem_iff
  have hleast := image'.isLeast_extremes
  have hgreatest := image'.isGreatest_extremes
  rw [hsame] at hleast hgreatest
  exact Prod.ext (hleast.unique image.isLeast_extremes) (hgreatest.unique image.isGreatest_extremes)

theorem Mirrored.apply_eq (h : Mirrored image image') (p : Parameters) :
    ({ p with swap := !p.swap } : Parameters).apply image = p.apply image' := by
  unfold apply
  rw [h.extremes_eq]
  dsimp only
  split
  · rfl
  · congr 1
    refine Grid.ext_get ?_ ?_ fun y x c hy hx hc => ?_
    · exact h.height_eq.symm
    · exact h.width_eq.symm
    rw [Grid.height_ofFn] at hy
    rw [Grid.width_ofFn] at hx
    rw [Grid.get_ofFn _ hy hx hc, Grid.get_ofFn _ (h.height_eq ▸ hy) (h.width_eq ▸ hx) hc,
      sourceChannel_not_swap p hc, h.get_eq y x _ hy hx (p.sourceChannel_lt hc)]
    rfl

/-! ## Arrays -/

theorem exists_applySupplied (p : Parameters) (ha : a.strides.length = a.shape.length) {h w : Nat}
    (himage : a.IsImage h w) :
    ∃ image : PixelBuffer, image.Shows a ∧ image.height = h ∧ image.width = w ∧
      p.applySupplied (.array a) = p.apply image := by
  obtain ⟨image, hresult, hshows⟩ := PixelBuffer.exists_shows PixelBuffer.unnamed ha himage
  obtain ⟨hheight, hwidth⟩ := hshows.isImage.unique himage
  refine ⟨image, hshows, hheight, hwidth, ?_⟩
  rw [applySupplied, hresult, ok_bind]

theorem ends_apply (p : Parameters) (image : PixelBuffer) :
    Ends
      (fun values => values.height = image.height ∧ values.width = image.width ∧
        (∀ v ∈ image.toGrid.toArray, p.Accepts v) ∧
        ∀ y x (c : Fin 3), y < image.height → x < image.width →
          values.get y x c = p.affine c (image.get y x (p.sourceChannel c)))
      (fun f => f.refusesValue = true) (p.apply image) := by
  by_cases haccepts : ∀ v ∈ image.toGrid.toArray, p.Accepts v
  · obtain ⟨values, hvalues⟩ := exists_apply haccepts
    obtain ⟨hheight, hwidth, hget⟩ := apply_eq_ok hvalues
    rw [hvalues]
    exact .ok ⟨hheight, hwidth, haccepts, hget⟩
  · push Not at haccepts
    obtain ⟨v, hv, houtside⟩ := haccepts
    rw [apply_of_not_accepts hv houtside]
    exact .raise rfl rfl

theorem ends_applySupplied (p : Parameters) (ha : a.strides.length = a.shape.length) :
    Ends
      (fun values => a.IsImage values.height values.width ∧
        (∀ v ∈ a.samples values.height values.width, p.Accepts v) ∧
        ∀ y x (c : Fin 3), y < values.height → x < values.width →
          values.get y x c = p.affine c (a.sample y x (p.sourceChannel c)))
      (fun f => f.refusesValue = true) (p.applySupplied (.array a)) := by
  rw [applySupplied]
  cases hresult : PixelBuffer.ofSupplied PixelBuffer.unnamed (.array a) with
  | error f => exact .error ((PixelBuffer.ends_ofSupplied _ a).of_error hresult).1
  | ok image =>
  have hshows := PixelBuffer.shows_of_ofSupplied ha hresult
  refine (ends_apply p image).imp ?_ fun _ hf => hf
  rintro values ⟨hheight, hwidth, haccepts, hget⟩
  rw [hheight, hwidth]
  refine ⟨hshows.isImage, fun v hv => haccepts v (hshows.mem_iff.mpr hv), ?_⟩
  intro y x c hy hx
  rw [hget y x c hy hx, hshows.get_eq y x _ hy hx (p.sourceChannel_lt c.isLt)]

theorem applySupplied_reverseAxis (p : Parameters) (ha : a.strides.length = a.shape.length) :
    ({ p with swap := !p.swap } : Parameters).applySupplied (.array a) =
      p.applySupplied (.array (a.reverseAxis 2)) := by
  have hreversed : (a.reverseAxis 2).strides.length = (a.reverseAxis 2).shape.length := by
    simpa [StridedArray.reverseAxis] using ha
  cases hresult : PixelBuffer.ofSupplied PixelBuffer.unnamed (.array a) with
  | error f =>
      have hsame :=
        PixelBuffer.ofSupplied_eq_error (a := a) (b := a.reverseAxis 2) rfl rfl hresult
      rw [applySupplied, applySupplied, hresult, hsame]
      rfl
  | ok image =>
      have hshows := PixelBuffer.shows_of_ofSupplied ha hresult
      obtain ⟨image', hshows', hheight, hwidth, hresult'⟩ := exists_applySupplied p hreversed
        (StridedArray.isImage_reverseAxis.mpr hshows.isImage)
      have hmirrored : Mirrored image image' := by
        refine ⟨hheight, hwidth, fun y x c hy hx hc => ?_⟩
        rw [hshows'.get_eq y x c (hheight ▸ hy) (hwidth ▸ hx) hc,
          StridedArray.sample_reverseAxis ha hshows.isImage hc]
        exact (hshows.get_eq y x (2 - c) hy hx (by omega)).symm
      rw [hresult', ← hmirrored.apply_eq p, applySupplied, hresult, ok_bind]

/-- An array is normalized exactly if it is an image whose samples all lie in the range. Each value
is then made of one sample, read from the opposite channel if channels are exchanged, with the
offset and the scale of the channel of the value. -/
theorem applySupplied_pointwise (p : Parameters) (ha : a.strides.length = a.shape.length) :
    ((∃ values, p.applySupplied (.array a) = .ok values) ↔
      ∃ h w, a.IsImage h w ∧ ∀ v ∈ a.samples h w, p.Accepts v) ∧
    Ends
      (fun values => a.IsImage values.height values.width ∧
        ∀ y x (c : Fin 3), y < values.height → x < values.width →
          values.get y x c =
            (.ofNat (a.sample y x (if p.swap then 2 - c else c)).toNat -
                .ofBinary64 (p.offset.get c)) * .ofBinary64 (p.scale.get c))
      (fun f => f.refusesValue = true) (p.applySupplied (.array a)) ∧
    (∀ h w, a.IsImage h w → (∃ v ∈ a.samples h w, ¬ p.Accepts v) →
      ∃ least greatest, IsLeast (UInt8.toNat '' a.samples h w) least ∧
        IsGreatest (UInt8.toNat '' a.samples h w) greatest ∧
        p.applySupplied (.array a) =
          Failure.raise (.outsideRange least greatest p.low p.high)) ∧
    ({ p with swap := !p.swap } : Parameters).applySupplied (.array a) =
      p.applySupplied (.array (a.reverseAxis 2)) := by
  have hends := ends_applySupplied p ha
  refine ⟨⟨?_, ?_⟩, ?_, ?_, applySupplied_reverseAxis p ha⟩
  · rintro ⟨values, hvalues⟩
    obtain ⟨himage, haccepts, -⟩ := hends.of_ok hvalues
    exact ⟨_, _, himage, haccepts⟩
  · rintro ⟨h, w, himage, haccepts⟩
    obtain ⟨image, hshows, rfl, rfl, hresult⟩ := exists_applySupplied p ha himage
    rw [hresult]
    exact exists_apply fun v hv => haccepts v (hshows.mem_iff.mp hv)
  · exact hends.imp (fun _ hvalues => ⟨hvalues.1, hvalues.2.2⟩) fun _ hf => hf
  · rintro h w himage ⟨v, hv, houtside⟩
    obtain ⟨image, hshows, rfl, rfl, hresult⟩ := exists_applySupplied p ha himage
    have hsamples : {v | v ∈ image.toGrid.toArray} = a.samples image.height image.width :=
      Set.ext fun v => hshows.mem_iff
    refine ⟨_, _, hsamples ▸ image.isLeast_extremes, hsamples ▸ image.isGreatest_extremes, ?_⟩
    rw [hresult, apply_of_not_accepts (hshows.mem_iff.mpr hv) houtside]

theorem applySupplied_pointwise_onePixel :
    ∃ values,
      applySupplied ⟨.all (.ofInt 1), ⟨.ofInt 0, .ofInt 1, .ofInt 2⟩, true, 0, 255⟩
        (.array (.packed .bytes [1, 1, 3] ⟨#[10, 20, 30]⟩)) = .ok values ∧
      values.get 0 0 0 = .ofNat 30 ∧ values.get 0 0 1 = .ofNat 19 ∧
      values.get 0 0 2 = .ofNat 8 := by
  obtain ⟨haccepted, hends, -, -⟩ := applySupplied_pointwise
    ⟨.all (.ofInt 1), ⟨.ofInt 0, .ofInt 1, .ofInt 2⟩, true, 0, 255⟩
    (a := .packed .bytes [1, 1, 3] ⟨#[10, 20, 30]⟩) rfl
  have himage : (StridedArray.packed .bytes [1, 1, 3] ⟨#[10, 20, 30]⟩).IsImage 1 1 :=
    ⟨rfl, rfl, Nat.one_pos, Nat.one_pos⟩
  obtain ⟨values, hvalues⟩ :=
    haccepted.mpr ⟨1, 1, himage, fun v _ => accepts_of_range rfl rfl v⟩
  obtain ⟨hvaluesImage, hget⟩ := hends.of_ok hvalues
  have hfirst (c : Fin 3) := hget 0 0 c hvaluesImage.height_pos hvaluesImage.width_pos
  refine ⟨values, hvalues, ?_, ?_, ?_⟩
  · exact (hfirst 0).trans (by decide +kernel)
  · exact (hfirst 1).trans (by decide +kernel)
  · exact (hfirst 2).trans (by decide +kernel)

end Parameters

end RasterTensor
