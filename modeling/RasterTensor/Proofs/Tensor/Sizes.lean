import Mathlib.Algebra.Order.BigOperators.GroupWithZero.List
import Mathlib.Algebra.Order.Ring.Int
import Mathlib.Tactic.Ring
import RasterTensor.Catalogue
import RasterTensor.Proofs.Tensor.Indexing
import RasterTensor.Proofs.Tensor.Reading
import RasterTensor.Proofs.Tensor.Strides

/-!
# Tensor files of the right size

A file is read in a height and a width when it has as many elements as they say, and is refused
otherwise. The number of elements is computed in a word, though, and a length below zero stands
for one that is to be found: when the product wraps around, such a length can be read as another.
-/

namespace RasterTensor

open Binary Document Files

/-! ## Products in words -/

theorem dvd_sub_integerOfWord (i : Int) :
    (2 ^ 64 : Int) ∣ i - integerOfWord 64 (wordOfInteger 64 i) := by
  have hcount : wordCount 64 = 18446744073709551616 := rfl
  have hnonneg := Int.emod_nonneg i (b := 18446744073709551616) (by decide)
  have hword : ((wordOfInteger 64 i : Nat) : Int) = i % 18446744073709551616 := by
    rw [wordOfInteger, hcount]
    exact Int.toNat_of_nonneg hnonneg
  unfold integerOfWord
  split <;> omega

theorem dvd_of_computedProduct {shape : List Int} {size : Int}
    (hfits : ∀ n ∈ shape, fitsSigned 64 n = true) (h : computedProduct shape = size) :
    (2 ^ 64 : Int) ∣ exactProduct shape - size := by
  rw [← h, computedProduct, if_pos (List.all_eq_true.mpr hfits)]
  exact dvd_sub_integerOfWord _

theorem boundedProduct_eq_some {k product : Int} {shape : List Int}
    (h : boundedProduct k shape = some product) : product = k * shape.prod := by
  induction shape generalizing k with
  | nil =>
      rw [List.prod_nil, Int.mul_one]
      exact (Option.some.inj h).symm
  | cons n rest ih =>
      rw [boundedProduct] at h
      split at h
      · cases h
      · rw [List.prod_cons, ← Int.mul_assoc]
        exact ih h

/-! ## Lengths for a shape -/

/-- Lengths for as many elements, which are those of a shape wherever it has no less than zero. -/
structure Completes (shape : List Int) (size : Nat) (lengths : List Nat) : Prop where
  fits : ∀ n ∈ shape, fitsSigned 64 n = true
  unknown_le : (shape.filter (· < 0)).length ≤ 1
  agree : List.Forall₂ (fun (n : Int) (m : Nat) => 0 ≤ n → n = m) shape lengths
  count_eq : elementCount lengths = size

/-- The lengths of a shape with another one in place of those below zero. -/
def fillWith (q : Nat) (shape : List Int) : List Nat :=
  shape.map fun n => if n < 0 then q else n.toNat

theorem agree_fillWith (q : Nat) (shape : List Int) :
    List.Forall₂ (fun (n : Int) (m : Nat) => 0 ≤ n → n = m) shape (fillWith q shape) := by
  rw [fillWith, List.forall₂_map_right_iff, List.forall₂_same]
  intro n _ hn
  rw [if_neg (Int.not_lt.mpr hn), Int.toNat_of_nonneg hn]

theorem elementCount_fillWith (q : Nat) (shape : List Int) :
    (elementCount (fillWith q shape) : Int) =
      (shape.filter (0 ≤ ·)).prod * (q : Int) ^ (shape.filter (· < 0)).length := by
  induction shape with
  | nil => rfl
  | cons n rest ih =>
      have hcount : elementCount (fillWith q (n :: rest)) =
          (if n < 0 then q else n.toNat) * elementCount (fillWith q rest) := rfl
      rw [hcount, Int.natCast_mul, ih]
      by_cases hn : n < 0
      · have hnot : ¬ 0 ≤ n := Int.not_le.mpr hn
        simp only [List.filter_cons, hn, hnot, decide_true, decide_false, if_true,
          Bool.false_eq_true, if_false, List.length_cons, pow_succ]
        ring
      · have hle : 0 ≤ n := Int.not_lt.mp hn
        simp only [List.filter_cons, hn, hle, decide_true, decide_false, if_true,
          Bool.false_eq_true, if_false, List.prod_cons, Int.toNat_of_nonneg hle]
        ring

theorem completes_fillWith {q size : Nat} {shape : List Int}
    (hfits : ∀ n ∈ shape, fitsSigned 64 n = true) (hunknown : (shape.filter (· < 0)).length ≤ 1)
    (hcount : (shape.filter (0 ≤ ·)).prod * (q : Int) ^ (shape.filter (· < 0)).length = size) :
    Completes shape size (fillWith q shape) where
  fits := hfits
  unknown_le := hunknown
  agree := agree_fillWith q shape
  count_eq := Int.ofNat_inj.mp ((elementCount_fillWith q shape).trans hcount)

theorem eq_of_boundBytes {itemSize : Nat} {lengths lengths' : List Nat}
    (h : boundBytes itemSize lengths = .ok lengths') : lengths' = lengths := by
  unfold boundBytes at h
  split at h
  · cases h
  · exact (Except.ok.inj h).symm

/-- With no length below zero there is nothing to fill in; else what is left for the one length is
the quotient. -/
theorem completes_of_reshape {itemSize size : Nat} {shape : List Int} {lengths : List Nat}
    (h : reshape itemSize size shape = .ok lengths) : Completes shape size lengths := by
  unfold reshape at h
  dsimp only at h
  split at h
  · cases h
  next hfits =>
  have hfits : ∀ n ∈ shape, fitsSigned 64 n = true := by simpa using hfits
  split at h
  · cases h
  next hunknown =>
  split at h
  · cases h
  next known hknown =>
  have hproduct : (shape.filter (0 ≤ ·)).prod = known := by
    rw [boundedProduct_eq_some hknown, Int.one_mul]
  have hnonneg : 0 ≤ known := by
    rw [← hproduct]
    refine List.prod_nonneg fun n hn => ?_
    simpa using (List.mem_filter.mp hn).2
  -- Either no length is to be found and the product is the size, or one is, and the product of the
  -- others divides the size.
  split at h
  next hall =>
    have hall : ∀ n ∈ shape, 0 ≤ n := by simpa using hall
    split at h
    next hsize =>
      have hfill : shape.map Int.toNat = fillWith 0 shape :=
        List.map_congr_left fun n hn => (if_neg (Int.not_lt.mpr (hall n hn))).symm
      have hnone : shape.filter (· < 0) = [] := by
        rw [List.filter_eq_nil_iff]
        intro n hn
        simpa using hall n hn
      rw [eq_of_boundBytes h, hfill]
      refine completes_fillWith hfits (Nat.le_of_not_lt hunknown) ?_
      rw [hnone, List.length_nil, pow_zero, Int.mul_one, hproduct, hsize]
    · cases h
  next hall =>
    have hone : (shape.filter (· < 0)).length = 1 := by
      have hpos : 0 < (shape.filter (· < 0)).length := by
        rw [List.length_filter_pos_iff]
        simpa using hall
      omega
    split at h
    · cases h
    next hdivides =>
      have hdvd : known ∣ size := Int.dvd_of_emod_eq_zero (not_not.mp (not_or.mp hdivides).2)
      rw [eq_of_boundBytes h]
      refine completes_fillWith hfits (Nat.le_of_not_lt hunknown) ?_
      rw [hone, pow_one, hproduct,
        Int.toNat_of_nonneg (Int.ediv_nonneg (Int.natCast_nonneg _) hnonneg),
        Int.mul_ediv_cancel' hdvd]

/-! ## Heights and widths -/

/-- One of a height and a width is below zero and stands for another one, with which the number of
elements is the same in a word. -/
structure StandsFor (h w : Int) (height width : Nat) : Prop where
  below_zero : h < 0 ∧ w = width ∨ h = height ∧ w < 0
  wraps : (2 ^ 64 : Int) ∣ 3 * h * w - 3 * height * width

theorem exactProduct_shapeOf (layout : Layout) (h w : Int) :
    exactProduct (shapeOf layout h w 3) = 3 * h * w := by
  cases layout <;> simp only [exactProduct, shapeOf, List.foldl_cons, List.foldl_nil] <;> ring

/-- The lengths of the batch and of the channels are not to be found. -/
theorem exists_shape_of_agree {layout : Layout} {h w : Int} {lengths : List Nat}
    (hagree : List.Forall₂ (fun (n : Int) (m : Nat) => 0 ≤ n → n = m) (shapeOf layout h w 3)
      lengths) :
    ∃ height width : Nat, lengths = layout.shape height width ∧
      (0 ≤ h → h = height) ∧ (0 ≤ w → w = width) := by
  have hfixed {k m : Nat} (heq : 0 ≤ (k : Int) → (k : Int) = m) : m = k :=
    (Int.ofNat_inj.mp (heq (Int.natCast_nonneg k))).symm
  cases layout with
  | nhwc =>
      simp only [shapeOf, List.forall₂_cons_left_iff, List.forall₂_nil_left_iff] at hagree
      obtain ⟨batch, _, hbatch, ⟨height, _, hheight, ⟨width, _, hwidth,
        ⟨channels, _, hchannels, rfl, rfl⟩, rfl⟩, rfl⟩, rfl⟩ := hagree
      obtain rfl := hfixed (k := 1) hbatch
      obtain rfl := hfixed (k := 3) hchannels
      exact ⟨height, width, rfl, hheight, hwidth⟩
  | nchw =>
      simp only [shapeOf, List.forall₂_cons_left_iff, List.forall₂_nil_left_iff] at hagree
      obtain ⟨batch, _, hbatch, ⟨channels, _, hchannels, ⟨height, _, hheight,
        ⟨width, _, hwidth, rfl, rfl⟩, rfl⟩, rfl⟩, rfl⟩ := hagree
      obtain rfl := hfixed (k := 1) hbatch
      obtain rfl := hfixed (k := 3) hchannels
      exact ⟨height, width, rfl, hheight, hwidth⟩

/-- Not both of the lengths can be found. -/
theorem Completes.exists_shape {layout : Layout} {h w : Int} {size : Nat} {lengths : List Nat}
    (hc : Completes (shapeOf layout h w 3) size lengths) :
    ∃ height width : Nat, lengths = layout.shape height width ∧ size = 3 * height * width ∧
      (0 ≤ h → h = height) ∧ (0 ≤ w → w = width) ∧ (0 ≤ h ∨ 0 ≤ w) := by
  obtain ⟨height, width, rfl, hheight, hwidth⟩ := exists_shape_of_agree hc.agree
  have hcount := hc.count_eq
  rw [Layout.elementCount_shape] at hcount
  refine ⟨height, width, rfl, ?_, hheight, hwidth, ?_⟩
  · rw [← hcount]
    ring
  · by_contra hnone
    obtain ⟨hh, hw⟩ := not_or.mp hnone
    have hle := hc.unknown_le
    cases layout <;> simp [shapeOf, Int.not_le.mp hh, Int.not_le.mp hw] at hle

/-! ## Reading -/

/-- The elements of a tensor are those of a byte string in order, and all of them. -/
structure Tensor.Lists (tensor : Tensor) (bytes : ByteArray) : Prop where
  size_eq : bytes.size = tensor.words.size * tensor.element.size
  toNat_words : ∀ i (hi : i < tensor.words.size),
    tensor.words[i].toNat = wordAt bytes (i * tensor.element.size) tensor.element.size

theorem Tensor.lists_wordsOfBytes {bytes : ByteArray} {element : ElementType}
    (heven : bytes.size % element.size = 0) (shape : List Nat) :
    Tensor.Lists ⟨element, shape, wordsOfBytes element bytes⟩ bytes where
  size_eq := by
    rw [wordsOfBytes, Array.size_ofFn]
    exact (Nat.div_mul_cancel (Nat.dvd_of_mod_eq_zero heven)).symm
  toNat_words i hi := by
    have hlt := wordAt_lt bytes (i * element.size) element.size
    have hword : 256 ^ element.size ≤ 2 ^ 32 := by cases element <;> decide
    simp only [wordsOfBytes, Array.getElem_ofFn]
    exact UInt32.toNat_ofNat_of_lt' (Nat.lt_of_lt_of_le hlt hword)

section Reading

variable {reach : Reach} {t : Tree} {shown : String} {bytes : ByteArray} {element : ElementType}
  {elementType : Value}

theorem readTensor_of_uneven (helement : ElementType.ofValue reach elementType = .ok element)
    (hread : t.read (.ofText shown) = .ok bytes) (huneven : bytes.size % element.size ≠ 0)
    (height width layout : Value) :
    readTensor reach t shown elementType height width layout =
      .error (.unevenFile bytes.size shown element) := by
  unfold readTensor
  simp only [helement, hread, ok_bind, liftM_file_ok, if_pos huneven]
  rfl

/-- Read in a height and a width given as integers, a file gives its elements in a shape that they
fill, for which the number of elements is the same in a word. -/
theorem ends_readTensor {layout : Layout} {layoutValue : Value}
    (helement : ElementType.ofValue reach elementType = .ok element)
    (hlayout : Layout.ofValue reach layoutValue = .ok layout)
    (hread : t.read (.ofText shown) = .ok bytes) (h w : Int) :
    Ends
      (fun tensor => tensor.element = element ∧ tensor.Lists bytes ∧
        computedProduct (shapeOf layout h w 3) = tensor.words.size ∧
        Completes (shapeOf layout h w 3) tensor.words.size tensor.shape)
      (fun f : Failure => f.refusesValue = true)
      (readTensor reach t shown elementType (.int h) (.int w) layoutValue) := by
  have hshape : readShape reach (.int h) (.int w) (.int 3) layoutValue =
      .ok (shapeOf layout h w 3) := by
    unfold readShape
    rw [hlayout]
    cases layout <;> rfl
  unfold readTensor
  simp only [helement, hread, ok_bind, liftM_file_ok]
  split
  · exact .error rfl
  next heven =>
  have heven : bytes.size % element.size = 0 := not_not.mp heven
  simp only [Value.isNull, Bool.and_false, Bool.or_false, Bool.false_eq_true, if_false,
    Value.toInteger, liftM_coercion_ok, ok_bind, hshape]
  split
  · exact .raise rfl rfl
  next hproduct =>
  split
  next lengths hlengths =>
    exact .ok ⟨rfl, Tensor.lists_wordsOfBytes heven lengths, (not_not.mp hproduct).symm,
      completes_of_reshape hlengths⟩
  · exact .error rfl

theorem readTensor_of_one_length (helement : ElementType.ofValue reach elementType = .ok element)
    (hread : t.read (.ofText shown) = .ok bytes) {height width : Value}
    (hone : height.isNull ≠ width.isNull) (layout : Value) :
    ∃ f, readTensor reach t shown elementType height width layout = .error f ∧
      f.refusesValue = true := by
  unfold readTensor
  simp only [helement, hread, ok_bind, liftM_file_ok]
  split
  · exact ⟨_, rfl, rfl⟩
  · have hnotBoth : (height.isNull && width.isNull) = false := by grind
    have hsome : (height.isNull || width.isNull) = true := by grind
    simp only [hnotBoth, hsome]
    exact ⟨_, rfl, rfl⟩

variable {layout : Layout} {layoutValue : Value}

theorem shape_of_readTensor (helement : ElementType.ofValue reach elementType = .ok element)
    (hlayout : Layout.ofValue reach layoutValue = .ok layout)
    (hread : t.read (.ofText shown) = .ok bytes) {h w : Int} {tensor : Tensor}
    (hok : readTensor reach t shown elementType (.int h) (.int w) layoutValue = .ok tensor) :
    ∃ height width : Nat, tensor.shape = layout.shape height width ∧
      bytes.size = 3 * height * width * element.size ∧
      (h = height ∧ w = width ∨ StandsFor h w height width) := by
  obtain ⟨rfl, hlists, hproduct, hcompletes⟩ :=
    (ends_readTensor helement hlayout hread h w).of_ok hok
  obtain ⟨height, width, hshape, hcount, hheight, hwidth, hknown⟩ := hcompletes.exists_shape
  refine ⟨height, width, hshape, hcount ▸ hlists.size_eq, ?_⟩
  have hwraps := dvd_of_computedProduct hcompletes.fits hproduct
  rw [exactProduct_shapeOf, hcount, Int.natCast_mul, Int.natCast_mul] at hwraps
  by_cases hh : 0 ≤ h
  · by_cases hw : 0 ≤ w
    · exact .inl ⟨hheight hh, hwidth hw⟩
    · exact .inr ⟨.inr ⟨hheight hh, Int.not_le.mp hw⟩, hwraps⟩
  · have hw := hknown.resolve_left hh
    exact .inr ⟨.inl ⟨Int.not_le.mp hh, hwidth hw⟩, hwraps⟩

theorem exists_readTensor (helement : ElementType.ofValue reach elementType = .ok element)
    (hlayout : Layout.ofValue reach layoutValue = .ok layout)
    (hread : t.read (.ofText shown) = .ok bytes) {h w : Nat} (hh : 1 ≤ h) (hw : 1 ≤ w)
    (hsize : bytes.size = 3 * h * w * element.size) (hmax : (bytes.size : Int) ≤ maxElements) :
    ∃ tensor, readTensor reach t shown elementType (.int h) (.int w) layoutValue = .ok tensor := by
  have hcount : elementCount (layout.shape h w) = 3 * h * w := by
    rw [Layout.elementCount_shape, Nat.mul_comm, Nat.mul_assoc]
  have hpos : 0 < 3 * h * w := Nat.mul_pos (Nat.mul_pos (by decide) hh) hw
  have hle : 3 * h * w ≤ bytes.size := hsize ▸ Nat.le_mul_of_pos_right _ element.size_pos
  refine ⟨_, readTensor_shaped helement hlayout hread ?_ ?_ ?_⟩
  · rw [hcount, hsize]
  · rwa [hcount]
  · rw [hcount]
    omega

/-- What a file is read as in a height and a width are its elements in order, and the file has
exactly the bytes of their shape. The shape is that of the height and the width, unless one of them
is below zero and stands for another one, for which the number of elements is the same in a word.
In a height and a width of at least one, every file of exactly the right size is read; no byte
string has more bytes than there can be elements. All other files are refused for their size,
however great the height and the width, and so is a file with a part of an element or a height
without a width. -/
theorem readTensor_exactSize (helement : ElementType.ofValue reach elementType = .ok element)
    (hlayout : Layout.ofValue reach layoutValue = .ok layout)
    (hread : t.read (.ofText shown) = .ok bytes) :
    (∀ (h w : Int) tensor,
      readTensor reach t shown elementType (.int h) (.int w) layoutValue = .ok tensor →
        tensor.element = element ∧ tensor.Lists bytes ∧
        ∃ height width : Nat, tensor.shape = layout.shape height width ∧
          bytes.size = 3 * height * width * element.size ∧
          (h = height ∧ w = width ∧ readShape reach (.int h) (.int w) (.int 3) layoutValue =
              .ok (tensor.shape.map Int.ofNat) ∨
            StandsFor h w height width)) ∧
    (∀ h w : Int, 1 ≤ h → 1 ≤ w →
      ((bytes.size : Int) = 3 * h * w * element.size → (bytes.size : Int) ≤ maxElements →
        ∃ tensor, readTensor reach t shown elementType (.int h) (.int w) layoutValue = .ok tensor) ∧
      ((bytes.size : Int) ≠ 3 * h * w * element.size →
        ∃ f, readTensor reach t shown elementType (.int h) (.int w) layoutValue = .error f ∧
          f.refusesValue = true)) ∧
    (bytes.size % element.size ≠ 0 → ∀ height width layout,
      ∃ f, readTensor reach t shown elementType height width layout = .error f ∧
        f.refusesValue = true) ∧
    ∀ (n : Int) layout,
      (∃ f, readTensor reach t shown elementType (.int n) .null layout = .error f ∧
        f.refusesValue = true) ∧
      ∃ f, readTensor reach t shown elementType .null (.int n) layout = .error f ∧
        f.refusesValue = true := by
  refine ⟨?_, ?_, ?_, ?_⟩
  · intro h w tensor hok
    obtain ⟨helements, hlists, -, -⟩ := (ends_readTensor helement hlayout hread h w).of_ok hok
    obtain ⟨height, width, hshape, hsize, hlengths⟩ :=
      shape_of_readTensor helement hlayout hread hok
    refine ⟨helements, hlists, height, width, hshape, hsize, hlengths.imp_left ?_⟩
    rintro ⟨rfl, rfl⟩
    rw [hshape]
    exact ⟨rfl, rfl, readShape_of_layout hlayout height width⟩
  · intro h w hh hw
    obtain ⟨h, rfl⟩ := Int.eq_ofNat_of_zero_le (Int.le_trans (by decide) hh)
    obtain ⟨w, rfl⟩ := Int.eq_ofNat_of_zero_le (Int.le_trans (by decide) hw)
    constructor
    · intro hsize hmax
      exact exists_readTensor helement hlayout hread (by omega) (by omega) (by exact_mod_cast hsize)
        hmax
    · intro hsize
      cases hresult : readTensor reach t shown elementType (.int h) (.int w) layoutValue with
      | error f => exact ⟨f, rfl, (ends_readTensor helement hlayout hread h w).of_error hresult⟩
      | ok tensor =>
          obtain ⟨height, width, -, hexact, ⟨hheight, hwidth⟩ | hstands⟩ :=
            shape_of_readTensor helement hlayout hread hresult
          · obtain rfl := Int.ofNat_inj.mp hheight
            obtain rfl := Int.ofNat_inj.mp hwidth
            exact absurd (by exact_mod_cast hexact) hsize
          · have hnone := hstands.below_zero
            omega
  · intro huneven height width layout
    exact ⟨_, readTensor_of_uneven helement hread huneven height width layout, rfl⟩
  · intro n layout
    exact ⟨readTensor_of_one_length helement hread (by simp [Value.isNull]) layout,
      readTensor_of_one_length helement hread (by simp [Value.isNull]) layout⟩

def sixBytes : Tree := ⟨[([['t']], .file ⟨#[1, 2, 3, 4, 5, 6]⟩)], []⟩

/-- Six bytes are read as two pixels, but not in a size whose product wraps around to six. -/
theorem readTensor_exactSize_sixBytes :
    (∃ tensor, readTensor .flat sixBytes "t" (.text "qasymm8") (.int 1) (.int 2) (.text "nhwc") =
      .ok tensor) ∧
    integerOfWord 64 (wordOfInteger 64 (3 * 3 * 6148914691236517206)) = 6 ∧
    ∃ f, readTensor .flat sixBytes "t" (.text "qasymm8") (.int 3) (.int 6148914691236517206)
        (.text "nhwc") = .error f ∧ f.refusesValue = true := by
  have helement : ElementType.ofValue .flat (.text "qasymm8") = .ok .quantized8 := rfl
  have hlayout : Layout.ofValue .flat (.text "nhwc") = .ok .nhwc := rfl
  have hread : sixBytes.read (.ofText "t") = .ok ⟨#[1, 2, 3, 4, 5, 6]⟩ := rfl
  obtain ⟨-, hsizes, -, -⟩ := readTensor_exactSize helement hlayout hread
  exact ⟨(hsizes 1 2 (by decide) (by decide)).1 (by decide) (by decide), by decide,
    (hsizes 3 6148914691236517206 (by decide) (by decide)).2 (by decide)⟩

/-- Six bytes are read in a height below zero, whose product wraps around to six. -/
theorem not_forall_readTensor_nonneg :
    ¬ ∀ reach (t : Tree) shown elementType (h w : Int) layout tensor,
      readTensor reach t shown elementType (.int h) (.int w) layout = .ok tensor →
        0 ≤ h ∧ 0 ≤ w := by
  intro hall
  have hread : readTensor .flat sixBytes "t" (.choice (.elementType .quantized8))
      (.int (-9223372036854775807)) (.int 2) (.choice (.layout .nhwc)) =
        .ok ⟨.quantized8, [1, 1, 2, 3], #[1, 2, 3, 4, 5, 6]⟩ :=
    eq_ok_of_toOption (by decide +kernel)
  obtain ⟨hh, -⟩ := hall .flat _ _ _ _ _ _ _ hread
  exact absurd hh (by decide)

end Reading

end RasterTensor
