import RasterTensor.Tensor.Grid
import RasterTensor.Tensor.Shape

/-!
# Resizing

An image that already has the size asked for is kept, and any other is interpolated by a resampler.

The resampler here is bilinear interpolation in fixed point. Each axis maps a target coordinate to
two neighbouring source coordinates with weights in units of 1/2048. When both axes are halved
exactly, every target sample is the rounded mean of four source samples instead.
-/

namespace RasterTensor

open Binary Document

namespace Resize

/-- The size asked for, where zero keeps the source's. -/
def resolveDimension (requested source : Int) : Int := if requested = 0 then source else requested

/-- A size given as values, against a source size given as a pair of values: height and width. -/
def resolveSize (source width height : Value) : Except Failure (Int × Int) := do
  let w ← width.toInteger
  let h ← height.toInteger
  if w < 0 ∨ h < 0 then Failure.raise (.negativeSize w h)
  else
    let sourceHeight ← (← source.member 0).toInteger
    let sourceWidth ← (← source.member 1).toInteger
    return (resolveDimension h sourceHeight, resolveDimension w sourceWidth)

/-- One, of weights. -/
def unit : Nat := 2048

structure Tap where
  first : Nat
  second : Nat
  firstWeight : Nat
  secondWeight : Nat
  deriving Inhabited, DecidableEq

/-- Where a target coordinate falls on a source axis: the coordinate below, which can be outside
the axis, and the fraction above it. -/
def position (source target d : Nat) : Int × Binary32 :=
  let scale := Binary64.ofInt 1 / (Binary64.ofNat target / Binary64.ofNat source)
  let place := Binary32.ofBinary64 ((Binary64.ofNat d + .half) * scale - .half)
  let below := place.number.floor?.getD 0
  (below, place - .ofInt below)

def weight (f : Binary32) : Nat := ((f * .ofNat unit).number.nearest?.getD 0).toNat

/-- The weight of a fraction and that of what it leaves of one. -/
def weights (f : Binary32) : Nat × Nat := (weight (.ofInt 1 - f), weight f)

/-- Across a row, a coordinate outside the axis takes its end alone. -/
def columnTap (source target d : Nat) : Tap :=
  let (below, fraction) := position source target d
  let last : Int := (source : Int) - 1
  let (below, fraction) :=
    if below < 0 then (0, Binary32.ofInt 0)
    else if last ≤ below then (last, Binary32.ofInt 0)
    else (below, fraction)
  let (first, second) := weights fraction
  ⟨below.toNat, min (below + 1) last |>.toNat, first, second⟩

/-- Down a column, both coordinates are moved into the axis and keep their weights. -/
def rowTap (source target d : Nat) : Tap :=
  let (below, fraction) := position source target d
  let last := source - 1
  let (first, second) := weights fraction
  ⟨min below.toNat last, min (below + 1).toNat last, first, second⟩

def across (p : Grid UInt8) (tap : Tap) (y c : Nat) : Nat :=
  (p.get y tap.first c).toNat * tap.firstWeight + (p.get y tap.second c).toNat * tap.secondWeight

def between (tap : Tap) (above below : Nat) : UInt8 :=
  .ofNat (((tap.firstWeight * (above >>> 4)) >>> 16 + (tap.secondWeight * (below >>> 4)) >>> 16 + 2)
    >>> 2)

def taps (tap : Nat → Nat → Nat → Tap) (source target : Nat) : Array Tap :=
  Array.ofFn fun d : Fin target => tap source target d

/-- Bilinear interpolation: across the rows first, then down the columns. -/
def interpolate (p : Grid UInt8) (height width : Nat) : Grid UInt8 :=
  let columns := taps columnTap p.width width
  let rows := taps rowTap p.height height
  let wide : Grid Nat := .ofFn p.height width fun y x c => across p (columns.getD x default) y c
  .ofFn height width fun y x c =>
    let tap := rows.getD y default
    between tap (wide.get tap.first x c) (wide.get tap.second x c)

def mean (p : Grid UInt8) (y x c : Nat) : UInt8 :=
  let sample (dy dx : Nat) : Nat := (p.get (2 * y + dy) (2 * x + dx) c).toNat
  .ofNat ((sample 0 0 + sample 0 1 + sample 1 0 + sample 1 1 + 2) >>> 2)

def scaled (p : Grid UInt8) (height width : Nat) : Grid UInt8 :=
  if p.height = 2 * height ∧ p.width = 2 * width then .ofFn height width (mean p)
  else interpolate p height width

@[simp] theorem height_scaled (p : Grid UInt8) (height width : Nat) :
    (scaled p height width).height = height := by
  unfold scaled interpolate
  split <;> rfl

@[simp] theorem width_scaled (p : Grid UInt8) (height width : Nat) :
    (scaled p height width).width = width := by
  unfold scaled interpolate
  split <;> rfl

/-- The greatest width or height there is. -/
def maxDimension : Nat := wordCount 31 - 1

/-- The length of an axis of `source` samples when `requested` are asked for. -/
def resolve (requested source : Nat) : Nat := if requested = 0 then source else requested

theorem resolve_pos {requested source : Nat} (h : 0 < source) : 0 < resolve requested source := by
  unfold resolve
  split <;> omega

end Resize

/-- Interpolation of an image to a size, given with the height first. -/
abbrev Resampler := PixelBuffer → (height width : Nat) → Except Failure PixelBuffer

/-- Bilinear interpolation. Neither an axis nor the number of samples can be zero or greater than
there is. -/
def Resampler.bilinear : Resampler := fun p height width =>
  if h : 0 < height ∧ 0 < width then
    if Resize.maxDimension < height ∨ Resize.maxDimension < width ∨
        maxElements < (height * width * 3 : Nat) then
      .error .unfitSize
    else
      .ok
        { toGrid := Resize.scaled p.toGrid height width
          height_pos := by simpa using h.1
          width_pos := by simpa using h.2 }
  else .error .unfitSize

namespace PixelBuffer

/-- The image at another size. There is none where the image has the size already. -/
def resized? (resample : Resampler) (p : PixelBuffer) (height width : Nat) :
    Except Failure (Option PixelBuffer) :=
  if height = p.height ∧ width = p.width then .ok none else (resample p height width).map some

/-- The image at another size; a width or height of zero is kept. -/
def resize (resample : Resampler) (p : PixelBuffer) (width height : Nat) :
    Except Failure PixelBuffer := do
  let resized ← p.resized? resample (Resize.resolve height p.height) (Resize.resolve width p.width)
  return resized.getD p

end PixelBuffer

end RasterTensor
