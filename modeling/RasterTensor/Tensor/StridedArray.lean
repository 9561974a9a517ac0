import RasterTensor.Choice.Reading
import RasterTensor.Tensor.ScalarType

/-!
# Arrays as callers supply them

An array is a view of a byte buffer: the element at an index lies at an offset plus the index
times the stride of each axis. Reversing, exchanging and thinning out axes only changes the view.
The content of an array are its elements in order, the last axis running fastest.
-/

namespace RasterTensor

open Binary Document

/-- `strides` holds the bytes from one index to the next, for each axis of `shape`. -/
structure StridedArray where
  type : ScalarType
  shape : List Nat
  strides : List Int
  offset : Int
  buffer : ByteArray

inductive Supplied where
  | array (a : StridedArray)
  | value (v : Value)

def elementCount (shape : List Nat) : Nat := shape.foldr (· * ·) 1

/-- The strides of elements of `size` bytes that lie in order. -/
def packedStrides (size : Nat) : List Nat → List Int
  | [] => []
  | _ :: rest => ((size * elementCount rest : Nat) : Int) :: packedStrides size rest

namespace StridedArray

def packed (type : ScalarType) (shape : List Nat) (buffer : ByteArray) : StridedArray :=
  ⟨type, shape, packedStrides type.size shape, 0, buffer⟩

def count (a : StridedArray) : Nat := elementCount a.shape

/-- The offset of the element at a position in order, over the axes from the last one on. -/
def offsetFromLast : List (Nat × Int) → Nat → Int
  | [], _ => 0
  | (length, stride) :: rest, k => (k % length : Nat) * stride + offsetFromLast rest (k / length)

def axesFromLast (a : StridedArray) : List (Nat × Int) := (a.shape.zip a.strides).reverse

/-- The content with every element in native byte order. -/
def content (a : StridedArray) : ByteArray :=
  let size := a.type.size
  let axes := a.axesFromLast
  bytesOfFn (a.count * size) fun j =>
    let first := (a.offset + offsetFromLast axes (j / size)).toNat
    byteAt a.buffer (first + a.type.nativePlace (j % size))

def stored (a : StridedArray) : ByteArray :=
  content { a with type := { a.type with reversed := false } }

def repacked (a : StridedArray) : StridedArray := packed a.type a.shape a.stored

def reverseAxis (a : StridedArray) (axis : Nat) : StridedArray :=
  let stride := a.strides.getD axis 0
  { a with
    strides := a.strides.set axis (-stride)
    offset := a.offset + ((a.shape.getD axis 0 : Int) - 1) * stride }

def permuteAxes (a : StridedArray) (order : List Nat) : StridedArray :=
  { a with
    shape := order.map fun i => a.shape.getD i 0
    strides := order.map fun i => a.strides.getD i 0 }

def transpose (a : StridedArray) : StridedArray :=
  a.permuteAxes (List.range a.shape.length).reverse

def swapFirst (a : StridedArray) : StridedArray :=
  a.permuteAxes ([1, 0] ++ (List.range a.shape.length).drop 2)

/-- Every other index of an axis, from the first on. -/
def thinAxis (a : StridedArray) (axis : Nat) : StridedArray :=
  { a with
    shape := a.shape.modify axis fun n => (n + 1) / 2
    strides := a.strides.modify axis fun s => 2 * s }

end StridedArray

/-- The shape of nested sequences as far as their lengths agree. -/
def commonShape : Value → List Nat
  | .list items | .tuple items => items.length :: commonOf items
  | _ => []
where
  commonOf : List Value → List Nat
    | [] => []
    | [one] => commonShape one
    | v :: rest => agreed (commonShape v) (commonOf rest)
  agreed : List Nat → List Nat → List Nat
    | m :: ms, n :: ns => if m = n then m :: agreed ms ns else []
    | _, _ => []

/-- The members at a depth of nested sequences, in order. -/
def leaves : Nat → Value → List Value
  | 0, v => [v]
  | depth + 1, .list items | depth + 1, .tuple items => items.flatMap (leaves depth)
  | _, _ => []

def isSequence : Value → Bool
  | .list _ | .tuple _ => true
  | _ => false

/-- The type that holds all of some values, as far as a value can be held as a number. -/
def typeOfLeaves (values : List Value) : ScalarType :=
  let isTruth : Value → Bool
    | .bool _ => true
    | _ => false
  let isWhole (fits : Int → Bool) : Value → Bool
    | .bool _ => true
    | .int i => fits i
    | _ => false
  let isNumber : Value → Bool
    | .float _ => true
    | v => isWhole (fun i => fitsSigned 64 i || fitsUnsigned 64 i) v
  if values.isEmpty then ⟨.real, 8, false⟩
  else if values.all isTruth then ⟨.truth, 1, false⟩
  else if values.all (isWhole (fitsSigned 64)) then ⟨.signed, 8, false⟩
  else if values.all (isWhole (fitsUnsigned 64)) then ⟨.unsigned, 8, false⟩
  else if values.all isNumber then ⟨.real, 8, false⟩
  else ⟨.reference, 8, false⟩

namespace StridedArray

def ofLeaves (type : ScalarType) (shape : List Nat) (values : List Value) :
    Except CoercionError StridedArray := do
  let elements ← values.mapM type.encode
  return packed type shape ⟨elements.flatten.toArray⟩

/-- The array that a value stands for: nested sequences become axes. -/
def ofValue (v : Value) : Except Failure StridedArray :=
  let shape := commonShape v
  let values := leaves shape.length v
  if values.any isSequence then .error (.ragged shape)
  else liftCoercion (ofLeaves (typeOfLeaves values) shape values)

def ofSupplied : Supplied → Except Failure StridedArray
  | .array a => .ok a
  | .value v => ofValue v

/-- Puts the axes of an image, with the channels last, in the order of a layout. -/
def toLayout (reach : Reach) (image : Supplied) (layout : Value) : Except Failure StridedArray := do
  let order ← Layout.ofValue reach layout
  let a ← ofSupplied image
  if a.shape.length ≠ 3 then throw (.notThreeAxes a.shape)
  match order with
  | .nhwc => return a.repacked
  | .nchw => return (a.permuteAxes [2, 0, 1]).repacked

end StridedArray

end RasterTensor
