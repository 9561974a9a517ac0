import RasterTensor.Raster.Fault
import RasterTensor.Raster.Picture

/-!
# Bitmap files

A bitmap file has a file header, an information header in one of several sizes, a palette for
pixels of at most eight bits, and rows of pixels that are padded to four bytes. Rows go from the
bottom up unless the header's height is marked.
-/

namespace RasterTensor.Raster

open Binary

namespace Bmp

def longHeaders : List Nat := [40, 52, 56, 64, 108, 124]

structure Header where
  width : Nat
  height : Nat
  topDown : Bool
  bits : Nat
  compression : Nat
  colors : Nat
  /-- The bytes of a palette entry. -/
  entryBytes : Nat
  /-- Where the headers end. -/
  stop : Nat
  /-- Where the rows begin according to the file header. -/
  dataStart : Nat

inductive HeaderFault where
  /-- The file counts as no bitmap. -/
  | unidentified
  | fault (f : Fault)

def half (file : ByteArray) (i : Nat) : Nat := wordAt file i 2

def whole (file : ByteArray) (i : Nat) : Nat := wordAt file i 4

def fileHeaderBytes : Nat := 14

/-- Reads the headers. The height of a long header is negative when its top byte is full. -/
def readHeader (file : ByteArray) : Except HeaderFault Header := do
  if file.size < fileHeaderBytes + 4 then throw .unidentified
  let place (i : Nat) : Nat := fileHeaderBytes + i
  let size := whole file (place 0)
  if file.size < fileHeaderBytes + size then throw (.fault .truncatedRead)
  let stop := fileHeaderBytes + max 4 size
  let dataStart := whole file 10
  if size = 12 then
    return { width := half file (place 4), height := half file (place 6), topDown := false
             bits := half file (place 10), compression := 0, colors := 0, entryBytes := 3, stop
             dataStart }
  else if longHeaders.contains size then
    let topDown := byteAt file (place 11) == 0xFF
    let height := whole file (place 8)
    return { width := whole file (place 4)
             height := if topDown then wordCount 32 - height else height
             topDown, bits := half file (place 14), compression := whole file (place 16)
             colors := whole file (place 32), entryBytes := 4, stop, dataStart }
  else throw (.fault (.bitmapHeader size))

def depths : List Nat := [1, 4, 8, 16, 24, 32]

def maxColors : Nat := 65536

def maxPalette : Nat := 256

/-- The header with the number of colors that its pixels have when it gives none. -/
def Header.completed (h : Header) : Header :=
  { h with colors := if h.colors = 0 then wordCount h.bits else h.colors }

def Header.isIndexed (h : Header) : Bool := h.bits ≤ 8

def Header.check (h : Header) : Except Fault Unit :=
  if !depths.contains h.bits then .error (.bitmapDepth h.bits)
  else if h.compression ≠ 0 then .error (.bitmapCompression h.compression)
  else if h.isIndexed ∧ maxColors < h.colors then .error (.bitmapPalette h.colors)
  else .ok ()

/-- Where the palette ends, as far as the file goes. -/
def Header.paletteStop (h : Header) (file : ByteArray) : Nat :=
  min file.size (h.stop + h.entryBytes * h.colors)

def Header.rowsStart (h : Header) (file : ByteArray) : Nat :=
  let start :=
    if h.dataStart = h.stop ∧ h.isIndexed then h.dataStart + 4 * h.colors else h.dataStart
  if start ≠ 0 then start else if h.isIndexed then h.paletteStop file else h.stop

def Header.palette (h : Header) (file : ByteArray) : Array (PerChannel UInt8) :=
  let count := (h.paletteStop file - h.stop) / h.entryBytes
  Array.ofFn fun i : Fin count =>
    let place := h.stop + i * h.entryBytes
    ⟨byteAt file (place + 2), byteAt file (place + 1), byteAt file place⟩

/-- Whether the palette is the plain scale of grays: black and white for two colors. -/
def Header.isGrayScale (h : Header) (file : ByteArray) : Bool :=
  let gray (i : Nat) : UInt8 := if h.colors = 2 then if i = 0 then 0 else 255 else .ofNat i
  (List.range h.colors).all fun i =>
    let place := h.stop + i * h.entryBytes
    place + 3 ≤ h.paletteStop file &&
      (List.range 3).all fun j => byteAt file (place + j) == gray i

def Header.stride (h : Header) : Nat := (h.width * h.bits + 31) / 32 * 4

/-- A sample of five bits, spread over the range of a byte. -/
def spread (n : Nat) : UInt8 := .ofNat (n % 32 * 255 / 31)

def pixelNumber (file : ByteArray) (row x bits : Nat) : UInt8 :=
  let start := x * bits
  let b := (byteAt file (row + start / 8)).toNat
  .ofNat ((b >>> (8 - bits - start % 8)) % wordCount bits)

/-- A channel of a pixel in full color, in a row that begins at a place. -/
def Header.channel (h : Header) (file : ByteArray) (row x c : Nat) : UInt8 :=
  if h.bits = 16 then spread (half file (row + 2 * x) >>> (5 * (2 - c)))
  else byteAt file (row + x * (h.bits / 8) + (2 - c))

def decode (file : ByteArray) (h : Header) : Except Fault Picture := do
  let gray := h.isIndexed && h.isGrayScale file
  /- The bits of a pixel as the rows are read. -/
  let bits := if gray then (if h.colors = 2 then 1 else 8) else h.bits
  let rowBytes := (h.width * bits + 7) / 8
  let start := h.rowsStart file
  let palette := if h.isIndexed && !gray then h.palette file else #[]
  if maxPalette < palette.size then throw .paletteSize
  if h.stride < rowBytes then throw .badConfiguration
  let available := file.size - start
  if available < h.stride * (h.height - 1) + rowBytes then
    let rest := available % h.stride
    throw (.truncated (if rowBytes ≤ rest then rest - rowBytes else rest))
  let rowStart (y : Nat) : Nat :=
    start + (if h.topDown then y else h.height - 1 - y) * h.stride
  if h.isIndexed then
    let pixels := bytesOfFn (h.height * h.width) fun j =>
      let v := pixelNumber file (rowStart (j / h.width)) (j % h.width) bits
      if gray && h.colors == 2 then (if v = 0 then 0 else 255) else v
    return { mode := if gray then .gray else .palette, width := h.width, height := h.height
             pixels, palette }
  else
    let pixels := bytesOfFn (h.height * h.width * 3) fun j =>
      h.channel file (rowStart (j / 3 / h.width)) (j / 3 % h.width) (j % 3)
    return { mode := .rgb, width := h.width, height := h.height, pixels }

end Bmp

end RasterTensor.Raster
