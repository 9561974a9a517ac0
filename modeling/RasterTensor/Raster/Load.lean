import RasterTensor.Files.Tree
import RasterTensor.Raster.Bmp
import RasterTensor.Raster.Png
import RasterTensor.Raster.Pnm

/-!
# Loading an image

The format of an image is found from the first bytes of the file, whatever its name. A file whose
header makes no sense counts as one of no known format. A fault is reported as a failure to load
the path, except for that of a malformed chunk within the image data or behind it.
-/

namespace RasterTensor.Raster

def startsWith (file : ByteArray) (bytes : List UInt8) : Bool :=
  (file.extract 0 bytes.length).toList == bytes

/-- An image whose header was read: its size, and how to go on. -/
structure Opened where
  width : Nat
  height : Nat
  decode : Unit → Except Fault Picture

/-- The header of an image; there is none in a file of no known format. -/
def openImage (file : ByteArray) : Except Fault (Option Opened) := do
  if startsWith file Png.signature then
    match Png.readHeader file file.size Png.signature.length {} with
    | .error .unidentified => return none
    | .error (.fault f) => throw f
    | .ok (h, first) =>
      if h.color.isNone then return none
      return some ⟨h.width, h.height, fun _ => Png.decode file h first⟩
  else if startsWith file (asciiBytes "BM") then
    match Bmp.readHeader file with
    | .error .unidentified => return none
    | .error (.fault f) => throw f
    | .ok h =>
      let h := h.completed
      h.check
      return some ⟨h.width, h.height, fun _ => Bmp.decode file h⟩
  else
    match ← Pnm.readHeader? file.toList with
    | none => return none
    | some h => return some ⟨h.width.toNat, h.height.toNat, fun _ => h.decode⟩

def decode (name : String) (file : ByteArray) : Except Fault Picture := do
  match ← openImage file with
  | none => throw (.unidentified name)
  | some image =>
    if image.width = 0 ∨ image.height = 0 then throw (.unidentified name)
    let pixels := image.width * image.height
    if maxPixels < pixels then throw (.tooManyPixels pixels)
    image.decode ()

def Fault.report (path : String) (f : Fault) : Failure :=
  if f.escapes then .raster f else .load path f.message

/-- A grid of samples as an image that came from a source. -/
def bufferOfGrid (source : String) (g : Grid UInt8) : Except Failure PixelBuffer :=
  if h : 0 < g.height ∧ 0 < g.width then
    .ok { toGrid := g, height_pos := h.1, width_pos := h.2 }
  else .error (.emptyImage source [g.height, g.width, 3])

/-- Makes an image in red, green and blue of the bytes of a file, whose path refusals show. -/
abbrev Decoder := (path : String) → ByteArray → Except Failure PixelBuffer

def Decoder.standard : Decoder := fun path file =>
  match decode path file with
  | .error f => .error (f.report path)
  | .ok picture => bufferOfGrid path picture.toRgb

/-- The image in a file. -/
def loadWith (decoder : Decoder) (t : Files.Tree) (path : String) : Except Failure PixelBuffer :=
  match t.readSpelling path with
  | .error e => .error (.load path e.message)
  | .ok file => decoder path file

def load : Files.Tree → String → Except Failure PixelBuffer := loadWith .standard

end RasterTensor.Raster
