import RasterTensor.Choice.Reading
import RasterTensor.Normalization.Parameters
import RasterTensor.Tensor.Grid

/-!
# Normalization

Samples go through an affine map in 32-bit arithmetic, are finalized for the element type, and
are listed in the order of the layout.
-/

namespace RasterTensor

open Binary Document

structure Tensor where
  element : ElementType
  shape : List Nat
  words : Array UInt32
  deriving DecidableEq

namespace Tensor

/-- The bytes of the elements in order, the least significant byte of each first. -/
def bytes (t : Tensor) : ByteArray :=
  let size := t.element.size
  bytesOfFn (t.words.size * size) fun j => byteOf (t.words.getD (j / size) 0).toNat (j % size)

def wordsOfBytes (element : ElementType) (bytes : ByteArray) : Array UInt32 :=
  Array.ofFn fun i : Fin (bytes.size / element.size) =>
    .ofNat (wordAt bytes (i * element.size) element.size)

end Tensor

/-- The least and the greatest entry, when there are any. -/
def extremes (samples : Array UInt8) : Nat × Nat :=
  samples.foldl (fun (low, high) v => (min low v.toNat, max high v.toNat)) (255, 0)

namespace Parameters

/-- What a sample of a channel becomes. -/
def affine (p : Parameters) (c : Fin 3) (v : UInt8) : Binary32 :=
  (.ofNat v.toNat - .ofBinary64 (p.offset.get c)) * .ofBinary64 (p.scale.get c)

def channelTable (p : Parameters) (c : Fin 3) : Array Binary32 :=
  Array.ofFn fun v : Fin 256 => p.affine c (.ofNat v)

theorem getD_channelTable (p : Parameters) (c : Fin 3) (v : UInt8) :
    (p.channelTable c).getD v.toNat default = p.affine c v := by
  have h : v.toNat < 256 := v.toNat_lt
  simp [channelTable, Array.getD, h]

def channelTables (p : Parameters) : PerChannel (Array Binary32) := .ofFn p.channelTable

/-- The channel that is read for a channel. -/
def sourceChannel (p : Parameters) (c : Nat) : Nat := if p.swap then 2 - c else c

def apply (p : Parameters) (image : PixelBuffer) : Except Failure (Grid Binary32) :=
  let (least, greatest) := extremes image.cells.toArray
  if (least : Int) < p.low ∨ p.high < (greatest : Int) then
    Failure.raise (.outsideRange least greatest p.low p.high)
  else
    let tables := p.channelTables
    .ok (.ofFn image.height image.width fun y x c =>
      (tables.getCyclic c).getD (image.get y x (p.sourceChannel c)).toNat default)

def applySupplied (p : Parameters) (image : Supplied) : Except Failure (Grid Binary32) := do
  p.apply (← PixelBuffer.ofSupplied PixelBuffer.unnamed image)

end Parameters

/-- An integer in 32 bits of two's complement; outside their range there is only the least. -/
def wordOfInt (i : Int) : UInt32 :=
  if fitsSigned 32 i then .ofNat (wordOfInteger 32 i) else 0x80000000

/-- The nearest integer, a tie to the even neighbour. -/
def roundToWord (x : Binary32) : UInt32 :=
  match x.number.nearest? with
  | some i => wordOfInt i
  | none => 0x80000000

/-- The nearest integer from 0 to 255, a tie to the even neighbour. -/
def roundToByte (x : Binary32) : UInt8 :=
  match x.number with
  | .nan => 0
  | .infinite negative => if negative then 0 else 255
  | x => .ofNat (max 0 (min 255 (x.nearest?.getD 0))).toNat

def ElementType.finalize : ElementType → Binary32 → UInt32
  | .float32, x => x.bits
  | .int32, x => roundToWord x
  | .quantized8, x => (roundToByte x).toUInt32

namespace StridedArray

/-- An array of 32-bit floats with every element finalized, in the same shape. -/
def finalize (a : StridedArray) (element : ElementType) : Tensor :=
  let content := a.content
  ⟨element, a.shape,
    Array.ofFn fun i : Fin a.count => element.finalize ⟨.ofNat (wordAt content (i * 4) 4)⟩⟩

end StridedArray

namespace Grid

def flatten {α : Type} [Inhabited α] (g : Grid α) : Layout → Array α
  | .nhwc => g.toArray
  | .nchw =>
    Array.ofFn fun k : Fin (3 * g.height * g.width) =>
      g.get (k / g.width % g.height) (k % g.width) (k / g.width / g.height)

end Grid

namespace Parameters

/-- The elements of an image as a tensor of one axis. -/
def normalize (p : Parameters) (image : PixelBuffer) (layout : Layout) (element : ElementType) :
    Except Failure Tensor := do
  let values ← p.apply image
  let words := (values.map element.finalize).flatten layout
  return ⟨element, [words.size], words⟩

/-- Normalizes what was supplied as an image, with the layout and the element type given as
values. -/
def normalizeSupplied (reach : Reach) (p : Parameters) (image : Supplied)
    (layout elementType : Value) : Except Failure Tensor := do
  let element ← ElementType.ofValue reach elementType
  let values ← p.applySupplied image
  let order ← Layout.ofValue reach layout
  let words := (values.map element.finalize).flatten order
  return ⟨element, [words.size], words⟩

end Parameters

end RasterTensor
