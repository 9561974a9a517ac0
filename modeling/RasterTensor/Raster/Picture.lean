import RasterTensor.Binary.Bytes
import RasterTensor.Binary.Format
import RasterTensor.Binary.Word
import RasterTensor.Normalization.Parameters
import RasterTensor.Tensor.Grid

/-!
# Pictures

A decoded picture has rows of pixels in one of several modes. Every mode has a rule for the
red, green and blue of a pixel; the integer modes keep the high byte of a sample of 16 bits.
-/

namespace RasterTensor.Raster

open Binary

inductive Mode where
  /-- One bit for each pixel, from the most significant one on; rows are padded to bytes. -/
  | bilevel
  | gray
  | grayAlpha
  | rgb
  | rgba
  | palette
  | paletteAlpha
  | cmyk
  /-- A float of 32 bits. -/
  | real
  /-- A signed integer of 32 bits. -/
  | integer
  /-- An unsigned integer of 16 bits. -/
  | wide (topFirst : Bool)
  deriving DecidableEq

/-- `pixels` holds the rows from the top down. A palette entry has red, green and blue. -/
structure Picture where
  mode : Mode
  width : Nat
  height : Nat
  pixels : ByteArray
  palette : Array (PerChannel UInt8) := #[]

def Mode.pixelBytes : Mode → Nat
  | .bilevel => 0
  | .gray | .palette => 1
  | .grayAlpha | .paletteAlpha | .wide _ => 2
  | .rgb => 3
  | .rgba | .cmyk | .real | .integer => 4

def Mode.rowBytes (m : Mode) (width : Nat) : Nat :=
  if m = .bilevel then (width + 7) / 8 else m.pixelBytes * width

/-- The quotient of a product by 255, rounded. -/
def scaledProduct (a b : Nat) : Nat :=
  let t := a * b + 128
  (t + t >>> 8) >>> 8

def lightOfInk (ink black : UInt8) : UInt8 :=
  let light := 255 - black.toNat
  .ofNat (light - scaledProduct ink.toNat light)

/-- The integer part of a number, moved into the range of a byte. -/
def byteOfReal (x : Binary32) : UInt8 :=
  match x.number with
  | .nan => 0
  | .infinite negative => if negative then 0 else 255
  | x => .ofNat (max 0 (min 255 (x.truncate?.getD 0))).toNat

def highByte (i : Int) : UInt8 := .ofNat ((max 0 (min 0xFFFF i)).toNat >>> 8)

namespace Picture

/-- The entry of a palette; past its end everything is black. -/
def entry (p : Picture) (i : UInt8) : PerChannel UInt8 := p.palette.getD i.toNat (.all 0)

/-- The byte of a pixel at a position in the pixel. -/
def byteOfPixel (p : Picture) (y x i : Nat) : UInt8 :=
  byteAt p.pixels ((y * p.width + x) * p.mode.pixelBytes + i)

/-- The integer of a pixel of 32 bits, the least significant byte first. -/
def signedInteger (p : Picture) (y x : Nat) : Int :=
  integerOfWord 32 (wordAt p.pixels ((y * p.width + x) * 4) 4)

def shortInteger (p : Picture) (topFirst : Bool) (y x : Nat) : Int :=
  let start := (y * p.width + x) * 2
  if topFirst then wordFromTop p.pixels start 2 else wordAt p.pixels start 2

def sample (p : Picture) (y x c : Nat) : UInt8 :=
  match p.mode with
  | .bilevel =>
    let b := byteAt p.pixels (y * ((p.width + 7) / 8) + x / 8)
    if (b.toNat >>> (7 - x % 8)) % 2 = 1 then 255 else 0
  | .gray | .grayAlpha => p.byteOfPixel y x 0
  | .rgb | .rgba => p.byteOfPixel y x c
  | .palette | .paletteAlpha => (p.entry (p.byteOfPixel y x 0)).getCyclic c
  | .cmyk => lightOfInk (p.byteOfPixel y x c) (p.byteOfPixel y x 3)
  | .real => byteOfReal ⟨.ofNat (wordAt p.pixels ((y * p.width + x) * 4) 4)⟩
  | .integer => highByte (p.signedInteger y x)
  | .wide topFirst => highByte (p.shortInteger topFirst y x)

def toRgb (p : Picture) : Grid UInt8 := .ofFn p.height p.width p.sample

end Picture

/-- The entries of a palette whose entries take `size` bytes; bytes that are left over do not
count. -/
def paletteOfBytes (size : Nat) (bytes : ByteArray) : Array (PerChannel UInt8) :=
  Array.ofFn fun i : Fin (bytes.size / size) =>
    ⟨byteAt bytes (i * size), byteAt bytes (i * size + 1), byteAt bytes (i * size + 2)⟩

end RasterTensor.Raster
