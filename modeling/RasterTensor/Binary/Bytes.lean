/-!
# Bytes

Byte strings made from a function of the position, and words as bytes from the least significant
one up.
-/

namespace RasterTensor.Binary

/-- The byte string of a given size with a given byte at each position. -/
def bytesOfFn (size : Nat) (f : Nat → UInt8) : ByteArray := ⟨Array.ofFn fun i : Fin size => f i⟩

theorem size_bytesOfFn (size : Nat) (f : Nat → UInt8) : (bytesOfFn size f).size = size := by
  simp [bytesOfFn, ByteArray.size]

/-- The byte at a position; past the end there are zeros. -/
def byteAt (bytes : ByteArray) (i : Nat) : UInt8 :=
  if h : i < bytes.size then bytes[i] else 0

theorem byteAt_bytesOfFn {size i : Nat} (f : Nat → UInt8) (h : i < size) :
    byteAt (bytesOfFn size f) i = f i := by
  have hsize : i < (bytesOfFn size f).size := (size_bytesOfFn size f).symm ▸ h
  simp only [byteAt, hsize, dif_pos]
  simp [bytesOfFn, ByteArray.getElem_eq_getElem_data]

/-- The byte of a number at a position counted from the least significant one. -/
def byteOf (n i : Nat) : UInt8 := .ofNat (n >>> (8 * i))

/-- A number in `size` bytes from the least significant one up. -/
def littleEndian (size n : Nat) : List UInt8 := (List.range size).map (byteOf n)

/-- The number in `size` bytes at a position. -/
def wordAt (bytes : ByteArray) (start size : Nat) : Nat :=
  (List.range size).foldr (fun i n => (byteAt bytes (start + i)).toNat + 256 * n) 0

/-- The number in `size` bytes at a position, the most significant one first. -/
def wordFromTop (bytes : ByteArray) (start size : Nat) : Nat :=
  (List.range size).foldl (fun n i => (byteAt bytes (start + i)).toNat + 256 * n) 0

end RasterTensor.Binary
