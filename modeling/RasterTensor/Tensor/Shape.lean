import RasterTensor.Choice.Reading
import RasterTensor.Tensor.StridedArray

/-!
# Tensor shapes

The shape of a tensor in the order of its layout, with a batch of one, and what it takes to give
that shape to a row of elements. A length below zero stands for one length that is to be found.
-/

namespace RasterTensor

open Binary Document

def shapeOf (layout : Layout) (height width channels : Int) : List Int :=
  match layout with
  | .nhwc => [1, height, width, channels]
  | .nchw => [1, channels, height, width]

/-- The shape with lengths and layout given as values. The lengths are read in the order of the
axes. -/
def readShape (reach : Reach) (height width channels layout : Value) :
    Except Failure (List Int) := do
  match ← Layout.ofValue reach layout with
  | .nchw =>
    let c ← channels.toInteger
    let h ← height.toInteger
    let w ← width.toInteger
    return shapeOf .nchw h w c
  | .nhwc =>
    let h ← height.toInteger
    let w ← width.toInteger
    let c ← channels.toInteger
    return shapeOf .nhwc h w c

/-- The number of elements in a shape, in exact arithmetic. -/
def exactProduct (shape : List Int) : Int := shape.foldl (· * ·) 1

/-- The number of elements as it is computed: in signed words of 64 bits while every length fits
one, in floats of 64 bits when the greatest lengths need an unsigned word, and exactly when there
are lengths beyond that. -/
def computedProduct (shape : List Int) : Int :=
  if shape.all (fitsSigned 64) then integerOfWord 64 (wordOfInteger 64 (exactProduct shape))
  else if shape.all fun n => fitsSigned 64 n || fitsUnsigned 64 n then
    let product := shape.foldl (fun x n => x * Binary64.ofInt n) (.ofInt 1)
    product.number.truncate?.getD 0
  else exactProduct shape

/-- The greatest number of elements there can be. -/
def maxElements : Int := wordCount 63 - 1

/-- The number of elements, unless a product on the way to it is beyond the greatest number. -/
def boundedProduct (product : Int) : List Int → Option Int
  | [] => some product
  | n :: rest => if maxElements < product * n then none else boundedProduct (product * n) rest

/-- The lengths of an array, unless one of them is zero and the others alone stand for too many
bytes. -/
def boundBytes (itemSize : Nat) (lengths : List Nat) : Except ReshapeFault (List Nat) :=
  if lengths.contains 0 ∧ maxElements < itemSize * elementCount (lengths.filter (0 < ·)) then
    .error .tooManyBytes
  else .ok lengths

/-- The shape of `size` elements of `itemSize` bytes, with a length below zero replaced by what is
left for it. -/
def reshape (itemSize size : Nat) (shape : List Int) : Except ReshapeFault (List Nat) :=
  let mismatch := ReshapeFault.sizeMismatch size shape
  if shape.any fun n => !fitsSigned 64 n then .error .tooLarge
  else if 1 < (shape.filter (· < 0)).length then .error .severalUnknown
  else
    match boundedProduct 1 (shape.filter (0 ≤ ·)) with
    | none => .error mismatch
    | some known =>
      if shape.all (0 ≤ ·) then
        if known = size then boundBytes itemSize (shape.map Int.toNat) else .error mismatch
      else if known = 0 ∨ (size : Int) % known ≠ 0 then .error mismatch
      else
        boundBytes itemSize
          (shape.map fun n => if n < 0 then ((size : Int) / known).toNat else n.toNat)

end RasterTensor
