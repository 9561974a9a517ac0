import RasterTensor.Text.Quoted

/-!
# Why an image cannot be decoded
-/

namespace RasterTensor.Raster

open Text

inductive Fault where
  /-- The content is of no known format, or its header does not make sense. -/
  | unidentified (name : String)
  | tooManyPixels (pixels : Nat)
  /-- The data ends inside a row, `left` bytes after the last complete one. -/
  | truncated (left : Nat)
  | truncatedFile
  | shortBuffer
  | notEnoughData
  /-- The header of a portable map ends early. -/
  | headerEnds
  | headerToken (token : List UInt8)
  | dataToken (token : List UInt8)
  | malformedNumber (token : List UInt8)
  | sampleRange
  | invalidBit (token : UInt8)
  | negativeSample (value : Int)
  | largeSample (value : Int)
  /-- A chunk of a portable network graphic ends early. -/
  | truncatedRead
  | truncatedChunk (name : String)
  | brokenChunk (name : List UInt8)
  | filterCategory
  | compressionMethod (method : UInt8) (chunk : String)
  /-- A chunk of `size` bytes has no number of `width` bytes at an offset. -/
  | shortNumber (width offset size : Nat)
  /-- A chunk is no row of `count` numbers of four bytes. -/
  | unevenNumbers (count : Nat)
  | missingByte
  | noData
  | brokenStream
  | unknownFilter
  | badConfiguration
  | paletteSize
  | bitmapHeader (size : Nat)
  | bitmapDepth (bits : Nat)
  | bitmapCompression (method : Nat)
  | bitmapPalette (colors : Nat)
  deriving DecidableEq

def maxPixels : Nat := 2 * 89478485

def asciiBytes (s : String) : List UInt8 := s.toList.map fun c => UInt8.ofNat c.toNat

def Fault.message : Fault → String
  | .unidentified name => "cannot identify image file " ++ quoted name
  | .tooManyPixels pixels =>
    "Image size (" ++ naturalText pixels ++ " pixels) exceeds limit of " ++
      naturalText maxPixels ++ " pixels, could be decompression bomb DOS attack."
  | .truncated left =>
    "image file is truncated (" ++ naturalText left ++ " bytes not processed)"
  | .truncatedFile => "image file is truncated"
  | .shortBuffer => "buffer is not large enough"
  | .notEnoughData => "not enough image data"
  | .headerEnds => "Reached EOF while reading header"
  | .headerToken token => quotedBytes (asciiBytes "Token too long in file header: " ++ token)
  | .dataToken token => quotedBytes (asciiBytes "Token too long found in data: " ++ token)
  | .malformedNumber token => "invalid literal for int() with base 10: " ++ quotedBytes token
  | .sampleRange => "maxval must be greater than 0 and less than 65536"
  | .invalidBit token => quotedBytes (asciiBytes "Invalid token for this mode: " ++ [token])
  | .negativeSample value => "Channel value is negative: " ++ integerText value
  | .largeSample value => "Channel value too large for this mode: " ++ integerText value
  | .truncatedRead => "Truncated File Read"
  | .truncatedChunk name => "Truncated " ++ name ++ " chunk"
  | .brokenChunk name => "broken PNG file (chunk " ++ quotedBytes name ++ ")"
  | .filterCategory => "unknown filter category"
  | .compressionMethod method chunk =>
    "Unknown compression method " ++ naturalText method.toNat ++ " in " ++ chunk ++ " chunk"
  | .shortNumber width offset size =>
    "unpack_from requires a buffer of at least " ++ naturalText (offset + width) ++
      " bytes for unpacking " ++ naturalText width ++ " bytes at offset " ++
      naturalText offset ++ " (actual buffer size is " ++ naturalText size ++ ")"
  | .unevenNumbers count =>
    "unpack requires a buffer of " ++ naturalText (4 * count) ++ " bytes"
  | .missingByte => "index out of range"
  | .noData => "cannot load this image"
  | .brokenStream => "broken data stream when reading image file"
  | .unknownFilter => "unrecognized data stream contents when reading image file"
  | .badConfiguration => "codec configuration error when reading image file"
  | .paletteSize => "invalid palette size"
  | .bitmapHeader size => "Unsupported BMP header type (" ++ naturalText size ++ ")"
  | .bitmapDepth bits => "Unsupported BMP pixel depth (" ++ naturalText bits ++ ")"
  | .bitmapCompression method => "Unsupported BMP compression (" ++ naturalText method ++ ")"
  | .bitmapPalette colors => "Unsupported BMP Palette size (" ++ naturalText colors ++ ")"

/-- Whether a fault is one of those of a malformed graphic. In the header of an image they make
the format unknown; behind it they are not reported as a failure to load. -/
def Fault.escapes : Fault → Bool
  | .brokenChunk _ | .filterCategory | .compressionMethod _ _ | .shortNumber _ _ _
  | .unevenNumbers _ | .missingByte => true
  | _ => false

end RasterTensor.Raster
