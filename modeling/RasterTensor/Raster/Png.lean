import RasterTensor.Raster.Deflate
import RasterTensor.Raster.Fault
import RasterTensor.Raster.Picture

/-!
# Portable network graphics

A file is a row of chunks. The chunks before the image data are checked one by one; the data of
neighbouring image chunks are one compressed stream of filtered rows, decoded piece by piece as
the chunks are read. What follows the image is checked in the same way up to the end mark.

Of an animation only the first picture counts. Its chunks `acTL`, `fcTL` and `fdAT` have no handlers
here: they are passed over like chunks of other names, and `fdAT` is no image data.
-/

namespace RasterTensor.Raster

open Binary

inductive ColorType where
  | gray
  | rgb
  | indexed
  | grayAlpha
  | rgba
  deriving DecidableEq

namespace Png

def channels : ColorType → Nat
  | .gray | .indexed => 1
  | .grayAlpha => 2
  | .rgb => 3
  | .rgba => 4

/-- The color type of a number, when it comes in a depth. -/
def colorType? (depth number : Nat) : Option ColorType :=
  let allowed (depths : List Nat) (c : ColorType) : Option ColorType :=
    if depths.contains depth then some c else none
  match number with
  | 0 => allowed [1, 2, 4, 8, 16] .gray
  | 2 => allowed [8, 16] .rgb
  | 3 => allowed [1, 2, 4, 8] .indexed
  | 4 => allowed [8, 16] .grayAlpha
  | 6 => allowed [8, 16] .rgba
  | _ => none

structure Chunk where
  name : List UInt8
  /-- Where its data begins. -/
  start : Nat
  length : Nat
  deriving DecidableEq

/-- Whether bytes can name a chunk: four letters, digits or underscores. -/
def isName (name : List UInt8) : Bool :=
  name.length == 4 && name.all fun b =>
    (0x30 ≤ b && b ≤ 0x39) || (0x41 ≤ b && b ≤ 0x5A) || (0x61 ≤ b && b ≤ 0x7A) || b == 0x5F

inductive ChunkFault where
  | cut
  | unnamed (name : List UInt8)
  deriving DecidableEq

def chunkAt (file : ByteArray) (position : Nat) : Except ChunkFault Chunk :=
  let head := file.extract position (position + 8)
  let name := (head.extract 4 8).toList
  if head.size < 4 then .error .cut
  else if !isName name then .error (.unnamed name)
  else .ok ⟨name, position + head.size, wordFromTop head 0 4⟩

/-- The chunk after one whose data stops at a position: behind its checksum. -/
def chunkAfter (file : ByteArray) (stop : Nat) : Except ChunkFault Chunk :=
  chunkAt file (min file.size (stop + 4))

def signature : List UInt8 := [0x89, 0x50, 0x4E, 0x47, 0x0D, 0x0A, 0x1A, 0x0A]

def Chunk.isNamed (c : Chunk) (s : String) : Bool := c.name == asciiBytes s

/-- Whether the data of a chunk is taken for image data behind other image data. -/
def Chunk.isData (c : Chunk) : Bool := c.isNamed "IDAT" || c.isNamed "DDAT"

def Chunk.stop (c : Chunk) : Nat := c.start + c.length

def Chunk.data (c : Chunk) (file : ByteArray) : ByteArray := file.extract c.start c.stop

structure Header where
  width : Nat := 0
  height : Nat := 0
  depth : Nat := 0
  color : Option ColorType := none
  interlaced : Bool := false
  palette : Option ByteArray := none

inductive HeaderFault where
  /-- The file counts as no graphic of this kind. -/
  | unidentified
  | fault (f : Fault)

def HeaderFault.ofFault (f : Fault) : HeaderFault :=
  if f.escapes then .unidentified else .fault f

def Header.takeImage (h : Header) (data : ByteArray) : Except Fault Header :=
  let byte (i : Nat) : Nat := (byteAt data i).toNat
  if data.size < 13 then .error (.truncatedChunk "IHDR")
  else if byte 11 ≠ 0 then .error .filterCategory
  else
    .ok
      { h with
        width := wordFromTop data 0 4
        height := wordFromTop data 4 4
        depth := if (colorType? (byte 8) (byte 9)).isSome then byte 8 else h.depth
        color := (colorType? (byte 8) (byte 9)).or h.color
        interlaced := h.interlaced || byte 12 != 0 }

/-- Where the samples of a transparent color stand. -/
def transparencyOffsets : Option ColorType → List Nat
  | some .gray => [0]
  | some .rgb => [0, 2, 4]
  | _ => []

/-- Checks that numbers of `width` bytes stand at some offsets. -/
def checkNumbers (width size : Nat) (offsets : List Nat) : Except Fault Unit :=
  match offsets.find? fun offset => size < offset + width with
  | some offset => .error (.shortNumber width offset size)
  | none => .ok ()

/-- The bytes behind the first zero byte, if there is one. -/
def afterName? (data : ByteArray) : Option (List UInt8) :=
  (data.toList.dropWhile (· != 0)).tail?

/-- Checks the number after the name of a color profile. Without a zero byte behind the name, it
is the first byte. -/
def checkProfile (data : ByteArray) : Except Fault Unit :=
  match ((afterName? data).getD data.toList).head? with
  | none => .error .missingByte
  | some method =>
    if method = 0 then .ok () else .error (.compressionMethod method "iCCP")

/-- Checks the number after the keyword of a compressed text, if it has one. -/
def checkText (data : ByteArray) : Except Fault Unit :=
  let method := ((afterName? data).bind List.head?).getD 0
  if method = 0 then .ok () else .error (.compressionMethod method "zTXt")

/-- Takes a chunk of whole data. -/
def Header.take (h : Header) (c : Chunk) (data : ByteArray) : Except Fault Header :=
  if c.isNamed "IHDR" then h.takeImage data
  else if c.isNamed "PLTE" then
    .ok (if h.color = some .indexed then { h with palette := some data } else h)
  else if c.isNamed "tRNS" then
    (checkNumbers 2 data.size (transparencyOffsets h.color)).map fun _ => h
  else if c.isNamed "gAMA" then (checkNumbers 4 data.size [0]).map fun _ => h
  else if c.isNamed "cHRM" then
    if data.size % 4 = 0 then .ok h else .error (.unevenNumbers (data.size / 4))
  else if c.isNamed "sRGB" ∧ data.size < 1 then .error (.truncatedChunk "sRGB")
  else if c.isNamed "pHYs" ∧ data.size < 9 then .error (.truncatedChunk "pHYs")
  else if c.isNamed "iCCP" then (checkProfile data).map fun _ => h
  else if c.isNamed "zTXt" then (checkText data).map fun _ => h
  else .ok h

/-- Whether a chunk is followed by the right checksum of its name and data. -/
def isIntact (file : ByteArray) (c : Chunk) : Bool :=
  c.stop + 4 ≤ file.size &&
    (crc32 (file.extract (c.start - 4) c.stop)).toNat == wordFromTop file c.stop 4

/-- Reads chunks up to the first one of image data, or up to the end mark; then there is no such
chunk. -/
def readHeader (file : ByteArray) :
    (fuel position : Nat) → Header → Except HeaderFault (Header × Option Chunk)
  | 0, _, _ => .error .unidentified
  | fuel + 1, position, h =>
    match chunkAt file position with
    | .error _ => .error .unidentified
    | .ok c =>
      if c.isNamed "IDAT" then .ok (h, some c)
      else if c.isNamed "IEND" then .ok (h, none)
      else if file.size < c.stop then .error (.fault .truncatedRead)
      else
        match h.take c (c.data file) with
        | .error f => .error (.ofFault f)
        | .ok h' =>
          if isIntact file c then readHeader file fuel (c.stop + 4) h'
          else .error .unidentified

/-- A row of the image as it is stored: the first column and row of its pixels, the distance from
one to the next, their number, and whether the row above it counts as empty. -/
structure Row where
  y : Nat
  firstColumn : Nat
  columnStep : Nat
  pixels : Nat
  isFirst : Bool

structure Pass where
  firstColumn : Nat
  firstRow : Nat
  columnStep : Nat
  rowStep : Nat

def passes : List Pass :=
  [⟨0, 0, 8, 8⟩, ⟨4, 0, 8, 8⟩, ⟨0, 4, 4, 8⟩, ⟨2, 0, 4, 4⟩, ⟨0, 2, 2, 4⟩, ⟨1, 0, 2, 2⟩,
    ⟨0, 1, 1, 2⟩]

/-- The number of members of a progression below a bound. -/
def stepsBelow (first step bound : Nat) : Nat := (bound + step - 1 - first) / step

/-- The rows in the order in which they are stored. -/
def rows (h : Header) : List Row :=
  let rowsOf (p : Pass) : List Row :=
    let pixels := stepsBelow p.firstColumn p.columnStep h.width
    if pixels = 0 then []
    else
      (List.range (stepsBelow p.firstRow p.rowStep h.height)).map fun i =>
        ⟨p.firstRow + i * p.rowStep, p.firstColumn, p.columnStep, pixels, i == 0⟩
  if h.interlaced then passes.flatMap rowsOf else rowsOf ⟨0, 0, 1, 1⟩

def Header.pixelBits (h : Header) : Nat := h.depth * (h.color.map channels).getD 1

def Header.rowBytes (h : Header) (r : Row) : Nat := (r.pixels * h.pixelBits + 7) / 8

/-- The neighbour that is nearest to left + above - corner, in this order when equally near. -/
def paeth (left above corner : Nat) : Nat :=
  let estimate : Int := (left : Int) + above - corner
  let distance (n : Nat) : Nat := (estimate - n).natAbs
  if distance left ≤ distance above ∧ distance left ≤ distance corner then left
  else if distance above ≤ distance corner then above
  else corner

/-- What a filter predicts from the neighbours to the left, above and at the corner. -/
def predict? (filter : UInt8) : Option (Nat → Nat → Nat → Nat) :=
  match filter.toNat with
  | 0 => some fun _ _ _ => 0
  | 1 => some fun left _ _ => left
  | 2 => some fun _ above _ => above
  | 3 => some fun left above _ => (left + above) / 2
  | 4 => some paeth
  | _ => none

/-- The bytes of a row from what remains after prediction. `above` is the row above it, and
`stride` the distance to the left neighbour. -/
def unfilter (predict : Nat → Nat → Nat → Nat) (stride : Nat) (above remains : ByteArray) :
    ByteArray :=
  (List.range remains.size).foldl
    (fun out i =>
      let near (bytes : ByteArray) : Nat :=
        if stride ≤ i then (byteAt bytes (i - stride)).toNat else 0
      out.push (byteAt remains i +
        .ofNat (predict (near out) (byteAt above i).toNat (near above))))
    .empty

structure Progress where
  stream : Deflate.Stream
  /-- The bytes of the stream that arrived. -/
  source : ByteArray
  /-- The rows that are still to come. -/
  awaited : List Row
  /-- The rows that are complete, the latest one first. -/
  done : List (Row × ByteArray)
  /-- Where the next row begins in the output of the stream. -/
  next : Nat

inductive Outcome where
  | unfinished (p : Progress)
  | finished (p : Progress)
  | failed (f : Fault)

/-- Decodes rows while there are bytes that the decoder has not looked at. The image ends with
its last row, or where the stream ends together with a row. -/
def decodeRows (h : Header) : Progress → (rows : List Row) → Outcome
  | p, [] => .finished { p with awaited := [] }
  | p, row :: rest =>
    let start := p.next
    let size := h.rowBytes row
    let stop := start + 1 + size
    let (stream, halt) := p.stream.decode p.source stop
    if halt = .corrupt then .failed .brokenStream
    else if stream.output.size < stop then
      .unfinished { p with stream, awaited := row :: rest }
    else
      match predict? (byteAt stream.output start) with
      | none => .failed .unknownFilter
      | some predict =>
        let above := if row.isFirst then .empty else (p.done.head?.map Prod.snd).getD .empty
        let remains := stream.output.extract (start + 1) stop
        let bytes := unfilter predict ((h.pixelBits + 7) / 8) above remains
        let p' := { p with stream, awaited := rest, done := (row, bytes) :: p.done, next := stop }
        if rest.isEmpty || halt = .complete then .finished p'
        else if halt = .starved || stream.unread p.source = 0 then .unfinished p'
        else decodeRows h p' rest

def pieceBytes : Nat := 65536

/-- Where the reader of image data is: the place of the next byte, and how many are left of the
chunk. -/
structure Reader where
  position : Nat
  left : Nat

/-- Goes on to a chunk of image data that has bytes left. There is none when another chunk
comes. -/
def Reader.toData (file : ByteArray) : (fuel : Nat) → Reader → Except Fault (Option Reader)
  | 0, _ => .ok none
  | fuel + 1, r =>
    if r.left ≠ 0 then .ok (some r)
    else
      match chunkAfter file r.position with
      | .error .cut => .error .truncatedFile
      | .error (.unnamed name) => .error (.brokenChunk name)
      | .ok c =>
        if c.isData then Reader.toData file fuel ⟨c.start, c.length⟩ else .ok none

/-- Feeds pieces of image data to the decoder until the image ends. -/
def decodeData (file : ByteArray) (h : Header) :
    (fuel : Nat) → Reader → Progress → Except Fault (Reader × Except Fault Progress)
  | 0, _, _ => .error (.truncated 0)
  | fuel + 1, r, p => do
    match ← Reader.toData file file.size r with
    | none => throw (.truncated 0)
    | some r =>
      let size := min pieceBytes r.left
      let piece := file.extract r.position (r.position + size)
      if piece.isEmpty then throw (.truncated 0)
      let r' : Reader := ⟨r.position + piece.size, r.left - size⟩
      let p := { p with source := p.source ++ piece }
      match decodeRows h p p.awaited with
      | .unfinished p' => decodeData file h fuel r' p'
      | .finished p' => return (r', .ok p')
      | .failed f => return (r', .error f)

/-- Reads what follows the image up to the end mark, or up to where there is no chunk. -/
def readRest (file : ByteArray) : (fuel stop : Nat) → Header → Except Fault Unit
  | 0, _, _ => .ok ()
  | fuel + 1, stop, h =>
    match chunkAfter file stop with
    | .error _ => .ok ()
    | .ok c =>
      if c.isNamed "IEND" then .ok ()
      else if file.size < c.stop then .error .truncatedRead
      else
        match h.take c (c.data file) with
        | .error f => .error f
        | .ok h' => readRest file fuel c.stop h'

/-- The mode of the picture. Samples of two bytes keep their high byte, except for gray ones
alone, which are kept whole. -/
def pictureMode (h : Header) : Mode :=
  match h.color with
  | some .gray => if h.depth = 16 then .wide true else .gray
  | some .rgb => .rgb
  | some .indexed => .palette
  | some .grayAlpha => .grayAlpha
  | some .rgba => .rgba
  | none => .gray

/-- The byte of a sample of less than eight bits: gray ones are spread over the range. -/
def narrowSample (h : Header) (bytes : ByteArray) (i : Nat) : UInt8 :=
  let place := i * h.depth
  let limit := wordCount h.depth - 1
  let v := ((byteAt bytes (place / 8)).toNat >>> (8 - h.depth - place % 8)) % (limit + 1)
  .ofNat (if h.color = some .gray then v * (255 / limit) else v)

/-- The byte of the picture at a place in a pixel, from the pixels of a row. -/
def pictureByte (h : Header) (bytes : ByteArray) (pixel place : Nat) : UInt8 :=
  let size := (h.color.map channels).getD 1
  if h.depth < 8 then narrowSample h bytes pixel
  else if h.depth = 16 ∧ h.color ≠ some .gray then byteAt bytes (2 * (pixel * size + place))
  else byteAt bytes (pixel * (h.pixelBits / 8) + place)

/-- The rows by the row of the image and, with interlacing, the column they start at. -/
def arrange (h : Header) (done : List (Row × ByteArray)) : ByteArray :=
  let mode := pictureMode h
  let size := mode.pixelBytes
  let byRow : Array (List (Row × ByteArray)) :=
    done.foldl (fun table d => table.modify d.1.y (d :: ·)) (Array.replicate h.height [])
  bytesOfFn (h.height * h.width * size) fun j =>
    let pixel := j / size
    let x := pixel % h.width
    let owner := (byRow.getD (pixel / h.width) []).find? fun d =>
      d.1.firstColumn ≤ x && (x - d.1.firstColumn) % d.1.columnStep == 0
    match owner with
    | some (row, bytes) =>
      pictureByte h bytes ((x - row.firstColumn) / row.columnStep) (j % size)
    | none => 0

def maxPalette : Nat := 256

/-- The picture of an image whose header was read and whose data begins in a chunk. -/
def decode (file : ByteArray) (h : Header) (first : Option Chunk) : Except Fault Picture := do
  let some c := first | throw .noData
  let palette := paletteOfBytes 3 (h.palette.getD .empty)
  if maxPalette < palette.size then throw .paletteSize
  let start : Progress := ⟨.start, .empty, rows h, [], 0⟩
  let (r, result) ← decodeData file h (file.size + 1) ⟨c.start, c.length⟩ start
  readRest file file.size (r.position + r.left) h
  let p ← result
  return { mode := pictureMode h, width := h.width, height := h.height
           pixels := arrange h p.done, palette }

end Png

end RasterTensor.Raster
