import RasterTensor.Tensor.Resize

/-!
# Arrays that share buffers

A caller holds an array as a view of a buffer, and other arrays can be views of the same buffer.
A memory is all the buffers that there are, each known by its number. New buffers come after the
ones that there are, so the number of a buffer tells whether it is new.
-/

namespace RasterTensor

open Binary Document

/-- An array as a view of one of the buffers of a memory. -/
structure ArrayView where
  type : ScalarType
  shape : List Nat
  strides : List Int
  offset : Int
  buffer : Nat

inductive Argument where
  | array (view : ArrayView)
  | value (v : Value)

structure Memory where
  buffers : Array ByteArray

/-- Whether the elements lie in order without gaps. The stride of an axis of one index is of no
account. -/
def ArrayView.isOrdered (v : ArrayView) : Bool :=
  (v.shape.zip (v.strides.zip (packedStrides v.type.size v.shape))).all
    fun (length, stride, packed) => length == 1 || stride == packed

namespace Memory

def array (m : Memory) (v : ArrayView) : StridedArray :=
  ⟨v.type, v.shape, v.strides, v.offset, m.buffers.getD v.buffer .empty⟩

def store (m : Memory) (type : ScalarType) (shape : List Nat) (bytes : ByteArray) :
    ArrayView × Memory :=
  (⟨type, shape, packedStrides type.size shape, 0, m.buffers.size⟩, ⟨m.buffers.push bytes⟩)

def storeGrid (m : Memory) (grid : Grid UInt8) : ArrayView × Memory :=
  m.store .bytes [grid.height, grid.width, 3] ⟨grid.toArray⟩

def copy (m : Memory) (v : ArrayView) : ArrayView × Memory :=
  m.store v.type v.shape (m.array v).stored

/-- The array itself if its elements lie in order, or else a copy. -/
def ordered (m : Memory) (v : ArrayView) : ArrayView × Memory :=
  if v.isOrdered then (v, m) else m.copy v

/-- The image in a view at another size. A size that is the image's own gives a copy. -/
def resize (m : Memory) (resample : Resampler) (given : Argument) (width height : Value) :
    Except Failure (ArrayView × Memory) :=
  match given with
  | .value v => .error (.notArray v.kind)
  | .array v => do
    let image ← PixelBuffer.ofSupplied PixelBuffer.unnamed (.array (m.array v))
    let (source, m) := m.ordered v
    let (h, w) ← Resize.resolveSize (.tuple [.int image.height, .int image.width]) width height
    match ← image.resized? resample h.toNat w.toNat with
    | none => return m.copy source
    | some resized =>
      let (result, m) := m.storeGrid resized.toGrid
      return m.ordered result

end Memory

end RasterTensor
