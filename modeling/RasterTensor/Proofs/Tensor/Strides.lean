import RasterTensor.Proofs.Tensor.Elements
import RasterTensor.Proofs.Text.Plain
import RasterTensor.Tensor.Shape

/-!
# The elements of an array

An array is a view of a buffer, and its elements are the numbers that the buffer holds at the
indices of its shape, each in the byte order of the array. The content of an array are these
numbers, the last axis running fastest, with the least significant byte of each first: for every
type, every strides and every shape, also one without elements.
-/

namespace RasterTensor

open Binary

/-! ## Positions in several digits -/

theorem map_range_mul {α : Type} (f : Nat → α) (m n : Nat) :
    (List.range (m * n)).map f =
      (List.range m).flatMap fun q => (List.range n).map fun r => f (q * n + r) := by
  induction m with
  | zero => simp
  | succ m ih =>
      rw [Nat.succ_mul, List.range_add, List.map_append, ih, List.range_succ, List.flatMap_append]
      simp [Function.comp_def]

theorem toList_bytesOfFn (size : Nat) (f : Nat → UInt8) :
    (bytesOfFn size f).toList = (List.range size).map f := by
  rw [Text.toList_eq, bytesOfFn, Array.toList_ofFn]
  apply List.ext_getElem
  · simp
  · intro i hi hi'
    simp

/-! ## Bytes of a word -/

namespace Binary

theorem foldr_bytes_lt (f : Nat → UInt8) (start size : Nat) :
    (List.range' start size).foldr (fun i n => (f i).toNat + 256 * n) 0 < 256 ^ size := by
  induction size generalizing start with
  | zero => simp
  | succ size ih =>
      have hbyte := (f start).toNat_lt
      have hrest := ih (start + 1)
      rw [List.range'_succ, List.foldr_cons, Nat.pow_succ']
      omega

theorem byteOf_foldr_bytes (f : Nat → UInt8) {start size i : Nat} (hi : i < size) :
    byteOf ((List.range' start size).foldr (fun i n => (f i).toNat + 256 * n) 0) i =
      f (start + i) := by
  induction size generalizing start i with
  | zero => exact absurd hi (Nat.not_lt_zero i)
  | succ size ih =>
      have hbyte := (f start).toNat_lt
      rw [List.range'_succ, List.foldr_cons]
      apply UInt8.toNat_inj.mp
      cases i with
      | zero =>
          rw [toNat_byteOf, Nat.pow_zero, Nat.div_one, Nat.add_mul_mod_self_left,
            Nat.mod_eq_of_lt hbyte, Nat.add_zero]
      | succ i =>
          -- The digits from the second on are those of the rest.
          have hrest := congrArg UInt8.toNat (@ih (start + 1) i (Nat.lt_of_succ_lt_succ hi))
          rw [toNat_byteOf] at hrest ⊢
          rw [Nat.pow_succ', ← Nat.div_div_eq_div_mul, Nat.add_mul_div_left _ _ (by decide),
            Nat.div_eq_of_lt hbyte, Nat.zero_add, hrest, Nat.add_right_comm, Nat.add_assoc]

theorem wordAt_eq_foldr (bytes : ByteArray) (start size : Nat) :
    wordAt bytes start size =
      (List.range' 0 size).foldr (fun i n => (byteAt bytes (start + i)).toNat + 256 * n) 0 := by
  rw [wordAt, List.range_eq_range']

/-- Read from the top, the bytes of a word come in reverse. -/
theorem wordFromTop_eq_foldr (bytes : ByteArray) (start size : Nat) :
    wordFromTop bytes start size =
      (List.range' 0 size).foldr
        (fun i n => (byteAt bytes (start + (size - 1 - i))).toNat + 256 * n) 0 := by
  have hreverse : List.range size = ((List.range size).map fun i => size - 1 - i).reverse := by
    apply List.ext_getElem
    · simp
    · intro i hi hi'
      simp only [List.length_range] at hi
      simp only [List.getElem_range, List.getElem_reverse, List.length_map, List.length_range,
        List.getElem_map]
      omega
  rw [wordFromTop, hreverse, List.foldl_reverse, List.foldr_map, ← List.range_eq_range']

theorem wordAt_lt (bytes : ByteArray) (start size : Nat) :
    wordAt bytes start size < 256 ^ size := by
  rw [wordAt_eq_foldr]
  exact foldr_bytes_lt _ 0 size

theorem wordFromTop_lt (bytes : ByteArray) (start size : Nat) :
    wordFromTop bytes start size < 256 ^ size := by
  rw [wordFromTop_eq_foldr]
  exact foldr_bytes_lt _ 0 size

theorem littleEndian_wordAt (bytes : ByteArray) (start size : Nat) :
    littleEndian size (wordAt bytes start size) =
      (List.range size).map fun i => byteAt bytes (start + i) := by
  refine List.map_congr_left fun i hi => ?_
  rw [wordAt_eq_foldr, byteOf_foldr_bytes _ (List.mem_range.mp hi), Nat.zero_add]

theorem littleEndian_wordFromTop (bytes : ByteArray) (start size : Nat) :
    littleEndian size (wordFromTop bytes start size) =
      (List.range size).map fun i => byteAt bytes (start + (size - 1 - i)) := by
  refine List.map_congr_left fun i hi => ?_
  rw [wordFromTop_eq_foldr, byteOf_foldr_bytes _ (List.mem_range.mp hi), Nat.zero_add]

end Binary

theorem Tensor.toList_bytes (t : Tensor) :
    t.bytes.toList = t.words.toList.flatMap fun w => littleEndian t.element.size w.toNat := by
  have hwords : t.words.toList = (List.range t.words.size).map fun k => t.words.getD k 0 := by
    apply List.ext_getElem
    · simp
    · intro k hk hk'
      simp only [Array.length_toList] at hk
      simp [Array.getD, hk]
  rw [bytes, toList_bytesOfFn, map_range_mul, hwords, List.flatMap_map]
  refine List.flatMap_congr fun k hk => List.map_congr_left fun i hi => ?_
  obtain ⟨hdiv, hmod⟩ := div_mod_of_lt (k := k) (List.mem_range.mp hi)
  rw [hdiv, hmod]

/-! ## Indices -/

/-- The indices of a shape in order: the last axis runs fastest. -/
def indices : List Nat → List (List Nat)
  | [] => [[]]
  | n :: rest => (List.range n).flatMap fun i => (indices rest).map (i :: ·)

/-- How far the element at an index lies from the first one. -/
def displacement : (strides : List Int) → (index : List Nat) → Int
  | stride :: strides, i :: index => stride * (i : Int) + displacement strides index
  | _, _ => 0

namespace StridedArray

/-- The axes that come first take the remainder of a position, those behind them its quotient. -/
theorem offsetFromLast_append (xs ys : List (Nat × Int)) {q r : Nat}
    (hr : r < elementCount (xs.map Prod.fst)) :
    offsetFromLast (xs ++ ys) (q * elementCount (xs.map Prod.fst) + r) =
      offsetFromLast xs r + offsetFromLast ys q := by
  induction xs generalizing r with
  | nil =>
      obtain rfl : r = 0 := Nat.lt_one_iff.mp hr
      simp [offsetFromLast, elementCount]
  | cons axis xs ih =>
      obtain ⟨n, stride⟩ := axis
      have hcount : elementCount (((n, stride) :: xs).map Prod.fst) =
          n * elementCount (xs.map Prod.fst) := rfl
      rw [hcount] at hr ⊢
      have hn : 0 < n := Nat.pos_of_ne_zero fun hzero => by simp [hzero] at hr
      have hrest : r / n < elementCount (xs.map Prod.fst) := by
        rwa [Nat.div_lt_iff_lt_mul hn, Nat.mul_comm]
      have hsplit : q * (n * elementCount (xs.map Prod.fst)) + r =
          n * (q * elementCount (xs.map Prod.fst)) + r := by
        rw [Nat.mul_left_comm]
      rw [List.cons_append, offsetFromLast, offsetFromLast, hsplit, Nat.mul_add_mod,
        Nat.mul_add_div hn, ih hrest, Int.add_assoc]

theorem elementCount_reverse (shape : List Nat) :
    elementCount shape.reverse = elementCount shape := by
  have happend (xs : List Nat) (n : Nat) : elementCount (xs ++ [n]) = n * elementCount xs := by
    induction xs with
    | nil => rfl
    | cons m xs ih =>
        change m * elementCount (xs ++ [n]) = n * (m * elementCount xs)
        rw [ih, Nat.mul_left_comm]
  induction shape with
  | nil => rfl
  | cons n rest ih =>
      rw [List.reverse_cons, happend, ih]
      rfl

/-- The positions of the elements in order lead through the indices in order. -/
theorem map_offsetFromLast {shape : List Nat} {strides : List Int}
    (h : strides.length = shape.length) :
    (List.range (elementCount shape)).map (offsetFromLast (shape.zip strides).reverse) =
      (indices shape).map (displacement strides) := by
  induction shape generalizing strides with
  | nil =>
      rw [List.length_eq_zero_iff.mp h]
      rfl
  | cons n rest ih =>
      cases strides with
      | nil => cases h
      | cons stride strides =>
          have hlength : strides.length = rest.length := Nat.succ.inj h
          have hrest : elementCount ((rest.zip strides).reverse.map Prod.fst) =
              elementCount rest := by
            rw [List.map_reverse, List.map_fst_zip (Nat.le_of_eq hlength.symm),
              elementCount_reverse]
          have hcount : elementCount (n :: rest) = n * elementCount rest := rfl
          rw [hcount, map_range_mul, indices, List.map_flatMap]
          refine List.flatMap_congr fun i hi => ?_
          have hlast : i % n = i := Nat.mod_eq_of_lt (List.mem_range.mp hi)
          calc
            _ = ((List.range (elementCount rest)).map
                (offsetFromLast (rest.zip strides).reverse)).map fun d => stride * i + d := by
              rw [List.map_map]
              refine List.map_congr_left fun r hr => ?_
              have hsplit := offsetFromLast_append (rest.zip strides).reverse [(n, stride)]
                (q := i) (r := r) (by rw [hrest]; exact List.mem_range.mp hr)
              rw [hrest] at hsplit
              rw [List.zip_cons_cons, List.reverse_cons, hsplit]
              simp only [offsetFromLast, hlast, Function.comp_apply]
              rw [Int.add_zero, Int.mul_comm, Int.add_comm]
            _ = _ := by
              rw [ih hlength, List.map_map, List.map_map]
              refine List.map_congr_left fun index _ => ?_
              simp [displacement]

end StridedArray

/-! ## Elements -/

namespace ScalarType

/-- Whether elements are made of whole words. -/
structure Divided (t : ScalarType) : Prop where
  wordSize_pos : 0 < t.wordSize
  wordSize_dvd : t.wordSize ∣ t.size

/-- The number of words of an element: one, or both halves of a complex number. -/
def wordsPerElement (t : ScalarType) : Nat := t.size / t.wordSize

theorem Divided.size_eq {t : ScalarType} (h : t.Divided) :
    t.wordsPerElement * t.wordSize = t.size :=
  Nat.div_mul_cancel h.wordSize_dvd

theorem divided_of_size_mem {t : ScalarType} (h : t.size ∈ t.kind.sizes) : t.Divided := by
  have hall : ∀ kind ∈ ScalarKind.all, ∀ size ∈ kind.sizes,
      0 < wordSize ⟨kind, size, false⟩ ∧ wordSize ⟨kind, size, false⟩ ∣ size := by decide
  have hkind : t.kind ∈ ScalarKind.all := by cases t.kind <;> decide
  obtain ⟨hpos, hdvd⟩ := hall t.kind hkind t.size h
  exact ⟨hpos, hdvd⟩

/-- The word that begins at a place of a buffer. -/
def wordIn (t : ScalarType) (buffer : ByteArray) (place : Nat) : Nat :=
  if t.reversed then wordFromTop buffer place t.wordSize else wordAt buffer place t.wordSize

theorem wordIn_lt (t : ScalarType) (buffer : ByteArray) (place : Nat) :
    t.wordIn buffer place < 256 ^ t.wordSize := by
  unfold wordIn
  split
  · exact wordFromTop_lt buffer place t.wordSize
  · exact wordAt_lt buffer place t.wordSize

theorem Divided.map_nativePlace {t : ScalarType} (h : t.Divided) (buffer : ByteArray)
    (place : Nat) :
    ((List.range t.size).map fun i => byteAt buffer (place + t.nativePlace i)) =
      (List.range t.wordsPerElement).flatMap fun part =>
        littleEndian t.wordSize (t.wordIn buffer (place + part * t.wordSize)) := by
  rw [← h.size_eq, map_range_mul]
  refine List.flatMap_congr fun part _ => ?_
  cases hreversed : t.reversed with
  | false =>
      simp only [wordIn, nativePlace, hreversed, Bool.false_eq_true, if_false,
        littleEndian_wordAt, Nat.add_assoc]
  | true =>
      simp only [wordIn, nativePlace, hreversed, if_true, littleEndian_wordFromTop]
      refine List.map_congr_left fun i hi => ?_
      obtain ⟨hdiv, hmod⟩ := div_mod_of_lt (k := part) (List.mem_range.mp hi)
      rw [hdiv, hmod, Nat.add_assoc]

end ScalarType

namespace StridedArray

variable {a : StridedArray}

/-- The numbers that make up the element at an index. -/
def numbersAt (a : StridedArray) (index : List Nat) : List Nat :=
  (List.range a.type.wordsPerElement).map fun part =>
    a.type.wordIn a.buffer
      ((a.offset + displacement a.strides index).toNat + part * a.type.wordSize)

/-- The numbers of all elements in order. -/
def numbers (a : StridedArray) : List Nat := (indices a.shape).flatMap a.numbersAt

/-- What every array has: a stride for each axis, elements of whole words, and no more elements
than there can be. -/
structure Regular (a : StridedArray) : Prop where
  divided : a.type.Divided
  length_strides : a.strides.length = a.shape.length
  count_le : (a.count : Int) ≤ maxElements

theorem size_content (a : StridedArray) : a.content.size = a.count * a.type.size := by
  rw [content, size_bytesOfFn]

theorem toList_content (htype : a.type.Divided) (hstrides : a.strides.length = a.shape.length) :
    a.content.toList = a.numbers.flatMap (littleEndian a.type.wordSize) := by
  have hplaces : (List.range a.count).map (fun k => a.offset + offsetFromLast a.axesFromLast k) =
      (indices a.shape).map fun index => a.offset + displacement a.strides index := by
    have hmap := congrArg (List.map (a.offset + ·)) (map_offsetFromLast hstrides)
    rwa [List.map_map, List.map_map] at hmap
  calc
    _ = (List.range a.count).flatMap fun k => (List.range a.type.size).map fun i =>
        byteAt a.buffer
          ((a.offset + offsetFromLast a.axesFromLast k).toNat + a.type.nativePlace i) := by
      rw [content, toList_bytesOfFn, map_range_mul]
      refine List.flatMap_congr fun k _ => List.map_congr_left fun i hi => ?_
      obtain ⟨hdiv, hmod⟩ := div_mod_of_lt (k := k) (List.mem_range.mp hi)
      rw [hdiv, hmod]
    _ = ((List.range a.count).map fun k => a.offset + offsetFromLast a.axesFromLast k).flatMap
        fun place => (List.range a.type.size).map fun i =>
          byteAt a.buffer (place.toNat + a.type.nativePlace i) := by
      rw [List.flatMap_map]
    _ = _ := by
      rw [hplaces, List.flatMap_map, numbers, List.flatMap_assoc]
      refine List.flatMap_congr fun index _ => ?_
      rw [htype.map_nativePlace, numbersAt, List.flatMap_map]

theorem lt_of_mem_numbers {n : Nat} (h : n ∈ a.numbers) : n < 256 ^ a.type.wordSize := by
  obtain ⟨index, -, hn⟩ := List.mem_flatMap.mp h
  obtain ⟨part, -, rfl⟩ := List.mem_map.mp hn
  exact a.type.wordIn_lt _ _

end StridedArray

end RasterTensor
