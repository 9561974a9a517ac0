import RasterTensor.Decimal.Numeral
import RasterTensor.Document.Coerce
import RasterTensor.Raster.Fault
import RasterTensor.Raster.Picture

/-!
# Portable maps

A portable map has a header of numerals in text and then its samples, as bytes or as numerals.
Samples are scaled from the greatest one that the header allows to the range of the picture.
-/

namespace RasterTensor.Raster

open Binary Document

structure MapKind where
  mode : Mode
  /-- The samples are numerals. -/
  plain : Bool
  deriving DecidableEq

def MapKind.ofMagic? (magic : List UInt8) : Option MapKind :=
  [("P1", .bilevel, true), ("P2", .gray, true), ("P3", .rgb, true), ("P4", .bilevel, false),
    ("P5", .gray, false), ("P6", .rgb, false)].findSome? fun (name, mode, plain) =>
      if asciiBytes name = magic then some ⟨mode, plain⟩ else none

namespace Pnm

def isBlank (b : UInt8) : Bool := b == 0x20 || (0x09 ≤ b && b ≤ 0x0D)

def isLineEnd (b : UInt8) : Bool := b == 0x0A || b == 0x0D

def commentMark : UInt8 := 0x23

/-- The text after a comment's start: all after the end of the line. -/
def afterLine (bytes : List UInt8) : List UInt8 := (bytes.dropWhile fun b => !isLineEnd b).drop 1

theorem length_afterLine_le (bytes : List UInt8) : (afterLine bytes).length ≤ bytes.length := by
  have h := (List.dropWhile_suffix (fun b => !isLineEnd b) (l := bytes)).length_le
  simp only [afterLine, List.length_drop]
  omega

def maxToken : Nat := 10

/-- The next token of a header and what follows the character after it. Blanks before it are
skipped, and comments wherever they stand. -/
def headerToken (token : List UInt8) : List UInt8 → Except Fault (List UInt8 × List UInt8)
  | [] => if token.isEmpty then .error .headerEnds else .ok (token.reverse, [])
  | b :: rest =>
    if isBlank b then
      if token.isEmpty then headerToken token rest else .ok (token.reverse, rest)
    else if b = commentMark then headerToken token (afterLine rest)
    else if maxToken ≤ token.length then .error (.headerToken (b :: token).reverse)
    else headerToken (b :: token) rest
termination_by bytes => bytes.length
decreasing_by
  all_goals simp only [List.length_cons]
  all_goals have := length_afterLine_le rest
  all_goals omega

def integerOfToken (token : List UInt8) : Except Fault Int :=
  match Decimal.asciiInteger (latinText token) with
  | .ok i => .ok i
  | .error _ => .error (.malformedNumber token)

def headerInteger (bytes : List UInt8) : Except Fault (Int × List UInt8) := do
  let (token, rest) ← headerToken [] bytes
  return (← integerOfToken token, rest)

/-- A sample in `0` to `greatest` as one in `0` to `range`, by way of a quotient and a product of
64 bits and to the nearest integer. -/
def rescale (v greatest range : Nat) : Nat :=
  let x := Binary64.ofNat v / Binary64.ofNat greatest * Binary64.ofNat range
  (x.number.nearest?.getD 0).toNat

/-- A portable map whose header was read. `greatest` is the greatest sample. -/
structure Header where
  kind : MapKind
  width : Int
  height : Int
  greatest : Nat
  data : List UInt8

def greatestLimit : Nat := 65535

/-- Reads a header, if there is one. -/
def readHeader? (bytes : List UInt8) : Except Fault (Option Header) := do
  let magic := (bytes.take 6).takeWhile fun b => !isBlank b
  match MapKind.ofMagic? magic with
  | none => return none
  | some kind =>
    let rest := bytes.drop (min 6 (magic.length + 1))
    let (width, rest) ← headerInteger rest
    let (height, rest) ← headerInteger rest
    if kind.mode = .bilevel then return some ⟨kind, width, height, 1, rest⟩
    let (greatest, rest) ← headerInteger rest
    if greatest ≤ 0 ∨ (greatestLimit : Int) < greatest then throw .sampleRange
    return some ⟨kind, width, height, greatest.toNat, rest⟩

def Header.channels (h : Header) : Nat := if h.kind.mode = .rgb then 3 else 1

/-- Gray samples beyond a byte make a picture of integers. -/
def Header.isWide (h : Header) : Bool := h.kind.mode == .gray && 255 < h.greatest

def Header.range (h : Header) : Nat := if h.isWide then 65535 else 255

def Header.picture (h : Header) (samples : Array Nat) : Picture :=
  let size := if h.isWide then 4 else 1
  let mode : Mode := if h.isWide then .integer else if h.kind.mode = .rgb then .rgb else .gray
  { mode
    width := h.width.toNat
    height := h.height.toNat
    pixels := bytesOfFn (samples.size * size) fun j =>
      byteOf (samples.getD (j / size) 0) (j % size) }

def withoutComments : List UInt8 → List UInt8
  | [] => []
  | b :: rest =>
    if b = commentMark then withoutComments (afterLine rest) else b :: withoutComments rest
termination_by bytes => bytes.length
decreasing_by
  all_goals simp only [List.length_cons]
  all_goals have := length_afterLine_le rest
  all_goals omega

/-- The parts of a text between blanks. -/
def splitBlanks (bytes : List UInt8) : List (List UInt8) :=
  let step (b : UInt8) : List UInt8 × List (List UInt8) → List UInt8 × List (List UInt8)
    | (token, tokens) =>
      if isBlank b then ([], if token.isEmpty then tokens else token :: tokens)
      else (b :: token, tokens)
  let (token, tokens) := bytes.foldr step ([], [])
  if token.isEmpty then tokens else token :: tokens

def tooLong? (token : List UInt8) : Option Fault :=
  if maxToken < token.length then some (.dataToken (token.take (maxToken + 1))) else none

def plainSample (h : Header) (token : List UInt8) : Except Fault Nat := do
  match tooLong? token with
  | some fault => throw fault
  | none => pure ()
  let v ← integerOfToken token
  if v < 0 then throw (.negativeSample v)
  if (h.greatest : Int) < v then throw (.largeSample v)
  return rescale v.toNat h.greatest h.range

def plainBits (h : Header) : Except Fault Picture := do
  let count := h.width.toNat * h.height.toNat
  let bits := (withoutComments h.data).filter fun b => !isBlank b
  match bits.find? fun b => b != 0x30 && b != 0x31 with
  | some b => throw (.invalidBit b)
  | none => pure ()
  if bits.length < count then throw .notEnoughData
  let samples := ((bits.take count).map fun b => if b = 0x30 then 255 else 0).toArray
  return h.picture samples

/-- A map of samples in text. A last token that no blank follows is looked at first for its
length. -/
def plainSamples (h : Header) : Except Fault Picture := do
  let count := h.width.toNat * h.height.toNat * h.channels
  let text := withoutComments h.data
  let tokens := splitBlanks text
  match text.getLast?, tokens.getLast? with
  | some b, some token =>
    if !isBlank b then
      match tooLong? token with
      | some fault => throw fault
      | none => pure ()
  | _, _ => pure ()
  let samples ← (tokens.take count).mapM (plainSample h)
  if samples.length < count then throw .notEnoughData
  return h.picture samples.toArray

/-- The number of bytes of the row that is cut when the data ends early. -/
def cutRow (available rowBytes : Nat) : Nat := available % rowBytes

def storedRows (h : Header) (mode : Mode) (change : UInt8 → UInt8) : Except Fault Picture :=
  let width := h.width.toNat
  let height := h.height.toNat
  let rowBytes := mode.rowBytes width
  if h.data.length < rowBytes * height then .error (.truncated (cutRow h.data.length rowBytes))
  else
    .ok
      { mode, width, height
        pixels := ⟨((h.data.take (rowBytes * height)).map change).toArray⟩ }

/-- The sample at a position in data of one or two bytes a sample. -/
def storedSample (h : Header) (data : ByteArray) (i : Nat) : Nat :=
  if h.greatest < 256 then (byteAt data i).toNat else wordFromTop data (2 * i) 2

def scaledSamples (h : Header) : Except Fault Picture :=
  let count := h.width.toNat * h.height.toNat * h.channels
  let size := if h.greatest < 256 then 1 else 2
  let data : ByteArray := ⟨h.data.toArray⟩
  if data.size < count * size then .error .notEnoughData
  else
    .ok (h.picture (Array.ofFn fun i : Fin count =>
      min h.range (rescale (storedSample h data i) h.greatest h.range)))

def Header.decode (h : Header) : Except Fault Picture :=
  match h.kind.plain, h.kind.mode with
  | true, .bilevel => plainBits h
  | true, _ => plainSamples h
  | false, .bilevel => storedRows h .bilevel fun b => b ^^^ 0xFF
  | false, .gray =>
    if h.greatest = 255 then
      if h.data.length < h.width.toNat * h.height.toNat then .error .shortBuffer
      else storedRows h .gray id
    else if h.greatest = greatestLimit then storedRows h (.wide true) id
    else scaledSamples h
  | false, _ => if h.greatest = 255 then storedRows h .rgb id else scaledSamples h

end Pnm

end RasterTensor.Raster
