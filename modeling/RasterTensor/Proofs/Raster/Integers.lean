import RasterTensor.Proofs.Normalization.Finalizers
import RasterTensor.Proofs.Tensor.Indexing
import RasterTensor.Proofs.Tensor.Strides
import RasterTensor.Raster.Picture

/-!
# Pictures of integers

A pixel of a picture of integers stores one integer, in the byte order of its mode. What is kept of
it is the high byte after a move into the range of 16 bits. So a picture of integers is the picture
that the high bytes give in gray, and integers out of range end at black or white.
-/

namespace RasterTensor

namespace Binary

/-! ## Words by their bytes -/

variable {bytes : ByteArray} {start size m n k : Nat}

theorem byteOf_wordAt (hk : k < size) :
    byteOf (wordAt bytes start size) k = byteAt bytes (start + k) := by
  rw [wordAt_eq_foldr, byteOf_foldr_bytes _ hk, Nat.zero_add]

theorem byteOf_wordFromTop (hk : k < size) :
    byteOf (wordFromTop bytes start size) k = byteAt bytes (start + (size - 1 - k)) := by
  rw [wordFromTop_eq_foldr, byteOf_foldr_bytes _ hk, Nat.zero_add]

theorem eq_of_byteOf_eq (hm : m < 256 ^ size) (hn : n < 256 ^ size)
    (h : ∀ k < size, byteOf m k = byteOf n k) : m = n := by
  have hm' := foldr_digits m 0 size
  have hn' := foldr_digits n 0 size
  rw [Nat.pow_zero, Nat.div_one, Nat.mod_eq_of_lt hm] at hm'
  rw [Nat.pow_zero, Nat.div_one, Nat.mod_eq_of_lt hn] at hn'
  rw [← hm', ← hn']
  apply List.foldr_ext
  intro k hk rest
  have hbyte := congrArg UInt8.toNat (h k (by simpa using hk))
  rw [toNat_byteOf, toNat_byteOf] at hbyte
  rw [hbyte]

theorem wordOfInteger_integerOfWord (hn : n < 256 ^ 4) :
    fitsSigned 32 (integerOfWord 32 n) = true ∧ wordOfInteger 32 (integerOfWord 32 n) = n := by
  have hcount : wordCount 32 = 4294967296 := rfl
  have hhalf : wordCount (32 - 1) = 2147483648 := rfl
  rw [fitsSigned, wordOfInteger, integerOfWord, hcount, hhalf, Bool.and_eq_true,
    decide_eq_true_eq, decide_eq_true_eq]
  split <;> omega

end Binary

open Binary

namespace Raster

/-! ## The high byte -/

variable {i j : Int}

theorem toNat_highByte (i : Int) : ((highByte i).toNat : Int) = max 0 (min 255 (i / 256)) := by
  rw [highByte, UInt8.toNat_ofNat', Nat.shiftRight_eq_div_pow]
  omega

theorem highByte_mono (h : i ≤ j) : highByte i ≤ highByte j := by
  have hi := toNat_highByte i
  have hj := toNat_highByte j
  rw [UInt8.le_iff_toNat_le]
  omega

theorem highByte_mul_add (v : UInt8) {r : Nat} (hr : r < 256) :
    highByte (256 * v.toNat + r) = v := by
  have hbyte := toNat_highByte (256 * v.toNat + r)
  have hv := v.toNat_lt
  apply UInt8.toNat_inj.mp
  omega

namespace Picture

variable {p q : Picture} {i : Int} {y x c : Nat}

/-- The bytes of a pixel hold an integer: one of 32 bits with a sign, the least significant byte
first, or one of 16 bits without a sign, in either order. -/
inductive Stores (p : Picture) (y x : Nat) (i : Int) : Prop
  | signed (hmode : p.mode = .integer) (hfits : fitsSigned 32 i = true)
      (hbytes : ∀ k < 4, p.byteOfPixel y x k = byteOf (wordOfInteger 32 i) k)
  | short (topFirst : Bool) (hmode : p.mode = .wide topFirst) (hfits : fitsUnsigned 16 i = true)
      (hbytes : ∀ k < 2, p.byteOfPixel y x (if topFirst then 1 - k else k) = byteOf i.toNat k)

/-! ## The integer of a pixel -/

theorem byteOf_signedInteger (hmode : p.mode = .integer) {k : Nat} (hk : k < 4) :
    byteOf (wordAt p.pixels ((y * p.width + x) * 4) 4) k = p.byteOfPixel y x k := by
  rw [byteOf_wordAt hk, byteOfPixel, hmode]
  rfl

theorem stores_iff_signed (hmode : p.mode = .integer) :
    p.Stores y x i ↔ p.signedInteger y x = i := by
  constructor
  · intro h
    cases h with
    | signed _ hfits hbytes =>
        have hword : wordAt p.pixels ((y * p.width + x) * 4) 4 = wordOfInteger 32 i := by
          apply eq_of_byteOf_eq (wordAt_lt _ _ _) (wordOfInteger_lt 32 i)
          intro k hk
          rw [byteOf_signedInteger hmode hk, hbytes k hk]
        rw [signedInteger, hword, integerOfWord_wordOfInteger_signed hfits]
    | short topFirst hshort =>
        rw [hmode] at hshort
        cases hshort
  · rintro rfl
    obtain ⟨hfits, hword⟩ :=
      wordOfInteger_integerOfWord (wordAt_lt p.pixels ((y * p.width + x) * 4) 4)
    apply Stores.signed hmode hfits
    intro k hk
    rw [hword, byteOf_signedInteger hmode hk]

theorem shortInteger_bounds (p : Picture) (topFirst : Bool) (y x : Nat) :
    0 ≤ p.shortInteger topFirst y x ∧ p.shortInteger topFirst y x < 65536 := by
  have hlow := wordAt_lt p.pixels ((y * p.width + x) * 2) 2
  have hhigh := wordFromTop_lt p.pixels ((y * p.width + x) * 2) 2
  cases topFirst with
  | false =>
      simp only [shortInteger, Bool.false_eq_true, if_false]
      omega
  | true =>
      simp only [shortInteger, if_true]
      omega

theorem byteOf_shortInteger {topFirst : Bool} (hmode : p.mode = .wide topFirst) {k : Nat}
    (hk : k < 2) : byteOf (p.shortInteger topFirst y x).toNat k =
      p.byteOfPixel y x (if topFirst then 1 - k else k) := by
  cases topFirst with
  | false =>
      simp only [shortInteger, Bool.false_eq_true, if_false, Int.toNat_natCast]
      rw [byteOf_wordAt hk, byteOfPixel, hmode]
      rfl
  | true =>
      simp only [shortInteger, if_true, Int.toNat_natCast]
      rw [byteOf_wordFromTop hk, byteOfPixel, hmode]
      rfl

theorem stores_iff_short {topFirst : Bool} (hmode : p.mode = .wide topFirst) :
    p.Stores y x i ↔ p.shortInteger topFirst y x = i := by
  have hcount : wordCount 16 = 65536 := rfl
  have hbounds := p.shortInteger_bounds topFirst y x
  constructor
  · intro h
    cases h with
    | signed hsigned =>
        rw [hmode] at hsigned
        cases hsigned
    | short topFirst' hshort hfits hbytes =>
        cases hmode.symm.trans hshort
        rw [fitsUnsigned, hcount, Bool.and_eq_true, decide_eq_true_eq, decide_eq_true_eq] at hfits
        have hword : (p.shortInteger topFirst y x).toNat = i.toNat := by
          have hlt : (p.shortInteger topFirst y x).toNat < 256 ^ 2 := by omega
          apply eq_of_byteOf_eq hlt (by omega)
          intro k hk
          rw [byteOf_shortInteger hmode hk, hbytes k hk]
        omega
  · rintro rfl
    apply Stores.short topFirst hmode
    · rw [fitsUnsigned, hcount, Bool.and_eq_true, decide_eq_true_eq, decide_eq_true_eq]
      exact hbounds
    · intro k hk
      exact (byteOf_shortInteger hmode hk).symm

theorem existsUnique_stores (hmode : p.mode = .integer ∨ ∃ topFirst, p.mode = .wide topFirst)
    (y x : Nat) : ∃! i, p.Stores y x i := by
  rcases hmode with hmode | ⟨topFirst, hmode⟩
  · simp only [stores_iff_signed hmode]
    exact existsUnique_eq'
  · simp only [stores_iff_short hmode]
    exact existsUnique_eq'

/-! ## Red, green and blue -/

theorem Stores.sample_eq (h : p.Stores y x i) (c : Nat) : p.sample y x c = highByte i := by
  rw [sample]
  cases h with
  | signed hmode hfits hbytes =>
      rw [← (stores_iff_signed hmode).mp (.signed hmode hfits hbytes), hmode]
  | short topFirst hmode hfits hbytes =>
      rw [← (stores_iff_short hmode).mp (.short topFirst hmode hfits hbytes), hmode]

theorem Stores.get_toRgb (h : p.Stores y x i) (hy : y < p.height) (hx : x < p.width)
    (hc : c < 3) : p.toRgb.get y x c = highByte i := by
  rw [toRgb, Grid.get_ofFn _ hy hx hc, h.sample_eq]

theorem get_toRgb_gray (hmode : q.mode = .gray) (hy : y < q.height) (hx : x < q.width)
    (hc : c < 3) : q.toRgb.get y x c = q.byteOfPixel y x 0 := by
  rw [toRgb, Grid.get_ofFn _ hy hx hc, sample, hmode]

theorem toRgb_eq_of_high_bytes (hmode : q.mode = .gray) (hheight : q.height = p.height)
    (hwidth : q.width = p.width)
    (hstores : ∀ y x, y < p.height → x < p.width →
      ∃ r : Nat, r < 256 ∧ p.Stores y x (256 * (q.byteOfPixel y x 0).toNat + r)) :
    p.toRgb = q.toRgb := by
  apply Grid.ext_get hheight.symm hwidth.symm
  intro y x c hy hx hc
  obtain ⟨r, hr, hstored⟩ := hstores y x hy hx
  rw [hstored.get_toRgb hy hx hc, highByte_mul_add _ hr,
    get_toRgb_gray hmode (hheight ▸ hy) (hwidth ▸ hx) hc]

/-- Every pixel of a picture of integers stores one integer. Where the integers are `256 * v + r`,
with `v` and `r` below 256, the picture is the one that the bytes `v` give in gray. Of whatever
integer, each channel is the quotient by 256 moved to the nearest byte, so all three are equal and
they grow with the integer. -/
theorem toRgb_of_integers (hmode : p.mode = .integer ∨ ∃ topFirst, p.mode = .wide topFirst) :
    (∀ y x, ∃! i, p.Stores y x i) ∧
    (∀ q : Picture, q.mode = .gray → q.height = p.height → q.width = p.width →
      (∀ y x, y < p.height → x < p.width →
        ∃ r : Nat, r < 256 ∧ p.Stores y x (256 * (q.byteOfPixel y x 0).toNat + r)) →
      p.toRgb = q.toRgb) ∧
    (∀ y x i, y < p.height → x < p.width → p.Stores y x i → ∀ c < 3,
      ((p.toRgb.get y x c).toNat : Int) = max 0 (min 255 (i / 256))) ∧
    ∀ (q : Picture) (y x y' x' : Nat) (i j : Int), y < p.height → x < p.width → y' < q.height →
      x' < q.width → p.Stores y x i → q.Stores y' x' j → i ≤ j → ∀ c < 3, ∀ c' < 3,
        p.toRgb.get y x c ≤ q.toRgb.get y' x' c' := by
  refine ⟨existsUnique_stores hmode, ?_, ?_, ?_⟩
  · intro q hgray hheight hwidth hstores
    exact toRgb_eq_of_high_bytes hgray hheight hwidth hstores
  · intro y x i hy hx hstored c hc
    rw [hstored.get_toRgb hy hx hc]
    exact toNat_highByte i
  · intro q y x y' x' i j hy hx hy' hx' hi hj hle c hc c' hc'
    rw [hi.get_toRgb hy hx hc, hj.get_toRgb hy' hx' hc']
    exact highByte_mono hle

def twoIntegers : Picture := ⟨.wide true, 2, 1, ⟨#[0x12, 0x34, 0xFF, 0x00]⟩, #[]⟩

def twoGrays : Picture := ⟨.gray, 2, 1, ⟨#[0x12, 0xFF]⟩, #[]⟩

theorem toRgb_of_integers_twoIntegers : twoIntegers.toRgb = twoGrays.toRgb := by
  obtain ⟨-, hgray, -, -⟩ := toRgb_of_integers (p := twoIntegers) (.inr ⟨true, rfl⟩)
  apply hgray twoGrays rfl rfl rfl
  intro y x hy hx
  obtain rfl : y = 0 := Nat.lt_one_iff.mp hy
  have hshort (x : Nat) : twoIntegers.Stores 0 x (twoIntegers.shortInteger true 0 x) :=
    (stores_iff_short rfl).mpr rfl
  match x, hx with
  | 0, _ => exact ⟨0x34, by decide, hshort 0⟩
  | 1, _ => exact ⟨0x00, by decide, hshort 1⟩

end Picture

end Raster

end RasterTensor
