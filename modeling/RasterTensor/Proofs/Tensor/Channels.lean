import Mathlib.Order.Lattice.Nat
import RasterTensor.Proofs.Tensor.Interpolation
import RasterTensor.Proofs.Tensor.Reading
import RasterTensor.Proofs.Tensor.Resizing
import RasterTensor.Proofs.Tensor.Strides

/-!
# The channels of a resized image

Each channel is resized by itself, so the order of the channels does not matter, and none leaves
the range of its samples.
-/

namespace RasterTensor

open Binary Document Resize Grid

namespace PixelBuffer

variable {p p' q : PixelBuffer} {width height : ℕ}

theorem exists_resize_sameChannel (hheight : p.height = p'.height) (hwidth : p.width = p'.width)
    (h : p.resize .bilinear width height = .ok q) :
    ∃ q', p'.resize .bilinear width height = .ok q' ∧
      ∀ c c' : Fin 3, p.SameChannel c p'.toGrid c' → q.SameChannel c q'.toGrid c' := by
  rcases resize_bilinear_eq_ok_iff.mp h with ⟨hsame, rfl⟩ | ⟨hother, hfits, hgrid⟩
  · refine ⟨p', resize_bilinear_eq_ok_iff.mpr (.inl ⟨?_, rfl⟩), fun c c' hchannel => hchannel⟩
    rwa [← hheight, ← hwidth]
  · rw [hheight, hwidth] at hother hfits
    let grid := scaled p'.toGrid (resolve height p'.height) (resolve width p'.width)
    have hrows : 0 < grid.height := by simpa [grid] using resolve_pos p'.height_pos
    have hcolumns : 0 < grid.width := by simpa [grid] using resolve_pos p'.width_pos
    refine ⟨⟨grid, hrows, hcolumns⟩, resize_bilinear_eq_ok_iff.mpr (.inr ⟨hother, hfits, rfl⟩), ?_⟩
    intro c c' hchannel
    rw [hgrid, hheight, hwidth]
    exact sameChannel_scaled hchannel c.isLt c'.isLt p.height_pos p.width_pos _ _

/-- The image with its channels in another order. -/
def permute (σ : Equiv.Perm (Fin 3)) (p : PixelBuffer) : PixelBuffer :=
  ofFn p.height p.width (fun y x c => p.get y x (if h : c < 3 then σ ⟨c, h⟩ else c)) p.height_pos
    p.width_pos

theorem sameChannel_permute (σ : Equiv.Perm (Fin 3)) (p : PixelBuffer) (c : Fin 3) :
    p.SameChannel (σ c) (p.permute σ).toGrid c := by
  refine ⟨rfl, rfl, ?_⟩
  intro y x hy hx
  exact ((Grid.get_ofFn _ hy hx c.isLt).trans (by rw [dif_pos c.isLt])).symm

theorem resize_permute (σ : Equiv.Perm (Fin 3)) (h : p.resize .bilinear width height = .ok q) :
    (p.permute σ).resize .bilinear width height = .ok (q.permute σ) := by
  have hheight : p.height = (p.permute σ).height := rfl
  have hwidth : p.width = (p.permute σ).width := rfl
  obtain ⟨q', hresult, hchannels⟩ := exists_resize_sameChannel hheight hwidth h
  rw [hresult]
  congr 1
  have hchannel (c : Fin 3) := hchannels (σ c) c (p.sameChannel_permute σ c)
  refine ext_get (hchannel 0).height_eq.symm (hchannel 0).width_eq.symm ?_
  intro y x c hy hx hc
  rw [← (hchannel 0).height_eq] at hy
  rw [← (hchannel 0).width_eq] at hx
  exact ((hchannel ⟨c, hc⟩).get_eq y x hy hx).symm.trans
    ((q.sameChannel_permute σ ⟨c, hc⟩).get_eq y x hy hx)

theorem channel_resize_subset {c : Fin 3} {low high : ℕ} (hcount : (p.count : ℤ) ≤ maxElements)
    (hhigh : high ≤ 255) (hchannel : p.channel c ⊆ Set.Icc low high)
    (h : p.resize .bilinear width height = .ok q) : q.channel c ⊆ Set.Icc low high := by
  rcases resize_bilinear_eq_ok_iff.mp h with ⟨-, rfl⟩ | ⟨-, hfits, hgrid⟩
  · exact hchannel
  · have hsource : p.count ≤ 2 ^ 63 := by
      rw [maxElements_eq] at hcount
      omega
    have hheight : p.height ≤ p.count := Nat.le_of_dvd p.count_pos ⟨p.width * 3, Nat.mul_assoc ..⟩
    have hwidth : p.width ≤ p.count :=
      Nat.le_of_dvd p.count_pos ⟨p.height * 3, by rw [count, Nat.mul_right_comm, Nat.mul_comm]⟩
    have hlimit : maxDimension ≤ 2 ^ 31 := by decide
    rw [hgrid]
    exact channel_scaled_subset hchannel c.isLt hhigh p.height_pos p.width_pos
      (hheight.trans hsource) (hwidth.trans hsource) (hfits.1.trans hlimit) (hfits.2.1.trans hlimit)

theorem channel_nonempty (p : PixelBuffer) (c : ℕ) : (p.channel c).Nonempty :=
  ⟨_, 0, 0, p.height_pos, p.width_pos, rfl⟩

theorem le_of_mem_channel {c n : ℕ} (h : n ∈ p.channel c) : n ≤ 255 := by
  obtain ⟨y, x, -, -, rfl⟩ := h
  exact Nat.le_of_lt_succ (p.get y x c).toNat_lt

/-- The samples of a resized channel lie between the least and the greatest sample there was. -/
theorem exists_range_resize (hcount : (p.count : ℤ) ≤ maxElements)
    (h : p.resize .bilinear width height = .ok q) (c : Fin 3) :
    ∃ low high, IsLeast (p.channel c) low ∧ IsGreatest (p.channel c) high ∧
      q.channel c ⊆ Set.Icc low high := by
  have hne := p.channel_nonempty c
  have hbounded : BddAbove (p.channel c) := ⟨255, fun _ => le_of_mem_channel⟩
  have hleast : IsLeast (p.channel c) (sInf (p.channel c)) :=
    ⟨Nat.sInf_mem hne, fun _ hn => Nat.sInf_le hn⟩
  have hgreatest : IsGreatest (p.channel c) (sSup (p.channel c)) :=
    ⟨Nat.sSup_mem hne hbounded, fun _ hn => le_csSup hbounded hn⟩
  refine ⟨_, _, hleast, hgreatest, ?_⟩
  exact channel_resize_subset hcount (le_of_mem_channel hgreatest.1)
    (fun n hn => ⟨hleast.2 hn, hgreatest.2 hn⟩) h

theorem channel_resize_of_constant {c : Fin 3} {n : ℕ} (hcount : (p.count : ℤ) ≤ maxElements)
    (h : p.resize .bilinear width height = .ok q) (hconstant : p.channel c = {n}) :
    q.channel c = {n} := by
  have hn : n ≤ 255 := le_of_mem_channel (hconstant ▸ Set.mem_singleton n)
  have hsubset : q.channel c ⊆ Set.Icc n n :=
    channel_resize_subset hcount hn (by rw [hconstant, Set.Icc_self]) h
  rw [Set.Icc_self] at hsubset
  exact ((q.channel_nonempty c).subset_singleton_iff).mp hsubset

end PixelBuffer

/-! ## Arrays that show images -/

namespace Resize

theorem resolveDimension_eq {requested : ℤ} (source : ℕ) (h : 0 ≤ requested) :
    resolveDimension requested source = (resolve requested.toNat source : ℕ) := by
  unfold resolveDimension resolve
  split <;> split <;> omega

end Resize

namespace Memory

variable {m m' : Memory} {v r : ArrayView} {image q : PixelBuffer} {width height : ℤ}

/-- Whether an array can be resized, and to what, only depends on the image that it shows. -/
theorem Holds.resize_bilinear (h : m.Holds v image) (hwidth : 0 ≤ width) (hheight : 0 ≤ height) :
    (∃ q r m', image.resize .bilinear width.toNat height.toNat = .ok q ∧
      m.resize .bilinear (.array v) (.int width) (.int height) = .ok (r, m') ∧ m'.Holds r q) ∨
    ∃ f, image.resize .bilinear width.toNat height.toNat = .error f ∧
      m.resize .bilinear (.array v) (.int width) (.int height) = .error f := by
  obtain ⟨-, hsource⟩ := h.ordered
  rw [h.resize_eq, if_neg (by omega), resolveDimension_eq _ hwidth, resolveDimension_eq _ hheight]
  rw [PixelBuffer.resize_eq]
  simp only [Nat.cast_inj, Int.toNat_natCast]
  split
  · exact .inl ⟨image, _, _, rfl, rfl, hsource.copy⟩
  · cases Resampler.bilinear image (resolve height.toNat image.height)
        (resolve width.toNat image.width) with
    | error f => exact .inr ⟨f, rfl, rfl⟩
    | ok q => exact .inl ⟨q, _, _, rfl, rfl, (holds_storeGrid _ q).ordered.2⟩

end Memory

namespace PixelBuffer

/-- Resizing any array that shows an image gives one that shows the other. -/
def ResizesTo (p q : PixelBuffer) (width height : ℤ) : Prop :=
  ∀ m v, Memory.Holds m v p →
    ∃ r m', m.resize .bilinear (.array v) (.int width) (.int height) = .ok (r, m') ∧ m'.Holds r q

theorem resizesTo_of_resize {p q : PixelBuffer} {width height : ℤ} (hwidth : 0 ≤ width)
    (hheight : 0 ≤ height) (h : p.resize .bilinear width.toNat height.toNat = .ok q) :
    p.ResizesTo q width height := by
  intro m v hheld
  rcases hheld.resize_bilinear hwidth hheight with ⟨q', r, m', hq, hr, hholds⟩ | ⟨f, hf, -⟩
  · cases hq.symm.trans h
    exact ⟨r, m', hr, hholds⟩
  · cases hf.symm.trans h

end PixelBuffer

namespace Memory

variable {m m' : Memory} {v r : ArrayView} {image : PixelBuffer} {width height : ℤ}

/-- A resize that returns gives an image whose channels are each made of one channel of the image
that was passed, whatever is in the others: images of one size that agree in a channel still do, and
channels that were exchanged are exchanged. No channel leaves the range of its samples, and one that
is constant stays so. -/
theorem resize_channels (hregular : (m.array v).Regular) (h : m.Holds v image)
    (hresult : m.resize .bilinear (.array v) (.int width) (.int height) = .ok (r, m')) :
    ∃ q, m'.Holds r q ∧
      (∀ image' : PixelBuffer, image.height = image'.height → image.width = image'.width →
        ∃ q', image'.ResizesTo q' width height ∧ ∀ c c' : Fin 3,
          image.SameChannel c image'.toGrid c' → q.SameChannel c q'.toGrid c') ∧
      (∀ σ : Equiv.Perm (Fin 3), (image.permute σ).ResizesTo (q.permute σ) width height) ∧
      ∀ c : Fin 3,
        (∃ low high, IsLeast (image.channel c) low ∧ IsGreatest (image.channel c) high ∧
          q.channel c ⊆ Set.Icc low high) ∧
        ∀ n, image.channel c = {n} → q.channel c = {n} := by
  obtain ⟨hwidth, hheight, -⟩ := h.of_resize Resampler.bilinear_obeys hresult
  have hcount : (image.count : ℤ) ≤ maxElements := by
    obtain ⟨_, hsupplied, hcount⟩ := PixelBuffer.count_of_ofSupplied h.image_eq
    cases hsupplied
    exact hcount ▸ hregular.count_le
  rcases h.resize_bilinear hwidth hheight with ⟨q, r', m'', hq, hr, hholds⟩ | ⟨f, -, hf⟩
  · cases hr.symm.trans hresult
    refine ⟨q, hholds, ?_, ?_, ?_⟩
    · intro image' hrows hcolumns
      obtain ⟨q', hq', hchannels⟩ := PixelBuffer.exists_resize_sameChannel hrows hcolumns hq
      exact ⟨q', PixelBuffer.resizesTo_of_resize hwidth hheight hq', hchannels⟩
    · intro σ
      exact PixelBuffer.resizesTo_of_resize hwidth hheight (PixelBuffer.resize_permute σ hq)
    · intro c
      exact ⟨PixelBuffer.exists_range_resize hcount hq c,
        fun n => PixelBuffer.channel_resize_of_constant hcount hq⟩
  · cases hf.symm.trans hresult

theorem resize_channels_fourPixels :
    ∃ image r m' q, (fourPixels.array mirroredPixels).Regular ∧
      fourPixels.Holds mirroredPixels image ∧
      fourPixels.resize .bilinear (.array mirroredPixels) (.int 3) (.int 0) = .ok (r, m') ∧
      m'.Holds r q ∧
      (∀ σ : Equiv.Perm (Fin 3), (image.permute σ).ResizesTo (q.permute σ) 3 0) ∧
      ∀ c : Fin 3, ∃ low high, IsLeast (image.channel c) low ∧ IsGreatest (image.channel c) high ∧
        q.channel c ⊆ Set.Icc low high := by
  obtain ⟨image, hheld, -⟩ := exists_holds_fourPixels
  have hregular : (fourPixels.array mirroredPixels).Regular :=
    ⟨ScalarType.divided_of_size_mem (by decide), rfl, by rw [maxElements_eq]; decide⟩
  have hresult := eq_ok_getD_of_isOk (by decide +kernel : (fourPixels.resize .bilinear
    (.array mirroredPixels) (.int 3) (.int 0)).isOk = true) (mirroredPixels, fourPixels)
  obtain ⟨q, hq, -, hpermuted, hrange⟩ := resize_channels hregular hheld hresult
  exact ⟨image, _, _, q, hregular, hheld, hresult, hq, hpermuted, fun c => (hrange c).1⟩

end Memory

end RasterTensor
