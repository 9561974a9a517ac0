import Mathlib.Algebra.BigOperators.Group.List.Basic
import Mathlib.Algebra.BigOperators.Group.List.Lemmas
import RasterTensor.Conversion
import RasterTensor.Proofs.Files.PathText
import RasterTensor.Proofs.Outcomes

/-!
# Reading a tensor file

A file with as many elements as a shape has is read as a tensor of that shape, as long as there
can be that many elements: the computed number of elements is then the exact one.
-/

namespace RasterTensor

open Binary Document Files

theorem elementCount_eq_prod (shape : List Nat) : elementCount shape = shape.prod := rfl

theorem exactProduct_map_ofNat (shape : List Nat) :
    exactProduct (shape.map Int.ofNat) = elementCount shape := by
  have hprod : exactProduct (shape.map Int.ofNat) = (shape.map Int.ofNat).prod :=
    List.prod_eq_foldl.symm
  rw [hprod, elementCount_eq_prod]
  induction shape with
  | nil => rfl
  | cons n rest ih =>
      rw [List.map_cons, List.prod_cons, List.prod_cons, ih List.prod_eq_foldl.symm]
      exact (Int.natCast_mul n rest.prod).symm

theorem le_elementCount_of_mem {shape : List Nat} {n : Nat} (hpos : 0 < elementCount shape)
    (h : n ∈ shape) : n ≤ elementCount shape :=
  Nat.le_of_dvd hpos (List.dvd_prod h)

theorem wordCount_half : wordCount (64 - 1) = 9223372036854775808 := rfl

theorem maxElements_eq : maxElements = 9223372036854775807 := rfl

theorem fitsSigned_of_le_maxElements {i : Int} (h0 : 0 ≤ i) (h : i ≤ maxElements) :
    fitsSigned 64 i = true := by
  rw [maxElements_eq] at h
  rw [fitsSigned, wordCount_half, Bool.and_eq_true, decide_eq_true_eq, decide_eq_true_eq]
  omega

theorem integerOfWord_wordOfInteger {i : Int} (h0 : 0 ≤ i) (h : i ≤ maxElements) :
    integerOfWord 64 (wordOfInteger 64 i) = i := by
  have hword : (wordCount 64 : Int) = 18446744073709551616 := rfl
  rw [maxElements_eq] at h
  have hmod : i % (wordCount 64 : Int) = i := by
    rw [hword]
    exact Int.emod_eq_of_lt h0 (by omega)
  have hlow : i.toNat < wordCount (64 - 1) := by
    rw [wordCount_half]
    omega
  rw [integerOfWord, wordOfInteger, hmod, if_pos hlow, Int.toNat_of_nonneg h0]

section Lengths

variable {shape : List Nat}

theorem fitsSigned_of_mem (hpos : 0 < elementCount shape)
    (hmax : (elementCount shape : Int) ≤ maxElements) {n : Int} (hn : n ∈ shape.map Int.ofNat) :
    fitsSigned 64 n = true := by
  obtain ⟨m, hm, rfl⟩ := List.mem_map.mp hn
  have hle := Int.ofNat_le.mpr (le_elementCount_of_mem hpos hm)
  exact fitsSigned_of_le_maxElements (Int.natCast_nonneg m) (Int.le_trans hle hmax)

theorem computedProduct_map_ofNat (hpos : 0 < elementCount shape)
    (hmax : (elementCount shape : Int) ≤ maxElements) :
    computedProduct (shape.map Int.ofNat) = elementCount shape := by
  have hfits : (shape.map Int.ofNat).all (fitsSigned 64) = true :=
    List.all_eq_true.mpr fun n hn => fitsSigned_of_mem hpos hmax hn
  have hword := integerOfWord_wordOfInteger (Int.natCast_nonneg _) hmax
  simp only [computedProduct, hfits, if_true, exactProduct_map_ofNat, hword]

theorem boundedProduct_map_ofNat (k : Nat) (hpos : 0 < elementCount shape)
    (hmax : ((k * elementCount shape : Nat) : Int) ≤ maxElements) :
    boundedProduct k (shape.map Int.ofNat) = some ((k * elementCount shape : Nat) : Int) := by
  induction shape generalizing k with
  | nil => exact congrArg _ (congrArg _ (Nat.mul_one k).symm)
  | cons n rest ih =>
      have hcount : elementCount (n :: rest) = n * elementCount rest := rfl
      rw [hcount] at hpos hmax ⊢
      have hrest : 0 < elementCount rest := Nat.pos_of_mul_pos_left hpos
      have hle : k * n ≤ k * (n * elementCount rest) := by
        rw [← Nat.mul_assoc]
        exact Nat.le_mul_of_pos_right _ hrest
      have hbound : ¬ maxElements < (k : Int) * Int.ofNat n := by
        have hcast : (k : Int) * Int.ofNat n = ((k * n : Nat) : Int) := (Int.natCast_mul k n).symm
        omega
      rw [← Nat.mul_assoc] at hmax ⊢
      rw [List.map_cons, boundedProduct, if_neg hbound]
      exact ih (k * n) hrest hmax

theorem reshape_map_ofNat (itemSize : Nat) (hpos : 0 < elementCount shape)
    (hmax : (elementCount shape : Int) ≤ maxElements) :
    reshape itemSize (elementCount shape) (shape.map Int.ofNat) = .ok shape := by
  have hfits : (shape.map Int.ofNat).any (fun n => !fitsSigned 64 n) = false := by
    rw [List.any_eq_false]
    intro n hn
    rw [fitsSigned_of_mem hpos hmax hn]
    decide
  have hall : (shape.map Int.ofNat).all (0 ≤ ·) = true := by simp [List.all_map]
  have hknown : (shape.map Int.ofNat).filter (0 ≤ ·) = shape.map Int.ofNat :=
    List.filter_eq_self.mpr (List.all_eq_true.mp hall)
  have hunknown : (shape.map Int.ofNat).filter (· < 0) = [] := by simp [List.filter_map]
  have hback : (shape.map Int.ofNat).map Int.toNat = shape := by simp [Function.comp_def]
  have hproduct : boundedProduct 1 (shape.map Int.ofNat) = some (elementCount shape : Int) := by
    have hone := boundedProduct_map_ofNat 1 hpos (by rwa [Nat.one_mul])
    rwa [Nat.one_mul] at hone
  have hzero : ¬ (0 ∈ shape) := by
    intro hmem
    exact Nat.ne_of_gt hpos (Nat.eq_zero_of_zero_dvd (List.dvd_prod hmem))
  have hbytes : boundBytes itemSize shape = .ok shape := by
    rw [boundBytes, if_neg]
    simp [hzero]
  simp [reshape, hfits, hunknown, hknown, hall, hback, hbytes, hproduct]

end Lengths

variable {reach : Reach}

theorem readShape_of_layout {v : Value} {layout : Layout}
    (hlayout : Layout.ofValue reach v = .ok layout) (h w : Nat) :
    readShape reach (.int h) (.int w) (.int 3) v = .ok ((layout.shape h w).map Int.ofNat) := by
  unfold readShape
  rw [hlayout]
  cases layout <;> rfl

theorem readShape_layout (reach : Reach) (h w : Nat) (layout : Layout) :
    readShape reach (.int h) (.int w) (.int 3) (.choice (.layout layout)) =
      .ok ((layout.shape h w).map Int.ofNat) :=
  readShape_of_layout rfl h w

section Reading

variable {t : Tree} {shown : String} {bytes : ByteArray} {element : ElementType}
  {elementType : Value}

theorem size_wordsOfBytes {count : Nat} (hsize : bytes.size = count * element.size) :
    (Tensor.wordsOfBytes element bytes).size = count := by
  rw [Tensor.wordsOfBytes, Array.size_ofFn, hsize, Nat.mul_div_cancel _ element.size_pos]

theorem readTensor_flat (helement : ElementType.ofValue reach elementType = .ok element)
    (hread : t.read (.ofText shown) = .ok bytes) {count : Nat}
    (hsize : bytes.size = count * element.size) (layout : Value) :
    readTensor reach t shown elementType .null .null layout =
      .ok ⟨element, [count], Tensor.wordsOfBytes element bytes⟩ := by
  have heven : bytes.size % element.size = 0 := by rw [hsize, Nat.mul_mod_left]
  have hcount := size_wordsOfBytes hsize
  simp [readTensor, helement, hread, heven, Value.isNull, hcount, pure_eq_ok]

theorem readTensor_shaped {layout : Layout} {layoutValue : Value} {h w : Nat}
    (helement : ElementType.ofValue reach elementType = .ok element)
    (hlayout : Layout.ofValue reach layoutValue = .ok layout)
    (hread : t.read (.ofText shown) = .ok bytes)
    (hsize : bytes.size = elementCount (layout.shape h w) * element.size)
    (hpos : 0 < elementCount (layout.shape h w))
    (hmax : (elementCount (layout.shape h w) : Int) ≤ maxElements) :
    readTensor reach t shown elementType (.int h) (.int w) layoutValue =
      .ok ⟨element, layout.shape h w, Tensor.wordsOfBytes element bytes⟩ := by
  have heven : bytes.size % element.size = 0 := by rw [hsize, Nat.mul_mod_left]
  have hcount := size_wordsOfBytes hsize
  have hshape := readShape_of_layout hlayout h w
  have hproduct := computedProduct_map_ofNat hpos hmax
  have hreshape := reshape_map_ofNat element.size hpos hmax
  -- Every check of the reader is one of the facts above.
  simp [readTensor, helement, hread, heven, Value.isNull, Value.toInteger, hshape, hcount,
    hproduct, hreshape, pure_eq_ok]

theorem readTensor_eq_ok {path : PathName} {h w : Nat} {layout : Layout} (hclean : path.Clean)
    (hread : t.read path = .ok bytes)
    (hsize : bytes.size = elementCount (layout.shape h w) * element.size)
    (hpos : 0 < elementCount (layout.shape h w))
    (hmax : (elementCount (layout.shape h w) : Int) ≤ maxElements) :
    readTensor reach t path.text (.choice (.elementType element)) (.int h) (.int w)
        (.choice (.layout layout)) =
      .ok ⟨element, layout.shape h w, Tensor.wordsOfBytes element bytes⟩ :=
  readTensor_shaped rfl rfl (by rwa [hclean.ofText_text]) hsize hpos hmax

end Reading

end RasterTensor
