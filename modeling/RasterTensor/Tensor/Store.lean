import RasterTensor.Scene
import RasterTensor.Tensor.Normalize
import RasterTensor.Tensor.Shape
import RasterTensor.Tensor.Writer

/-!
# Tensor files

A tensor file holds the bytes of the elements in order and nothing else. It is only ever created,
never overwritten, and one that could not be completed is removed again.
-/

namespace RasterTensor

open Binary Document Files

structure Content where
  bytes : ByteArray
  /-- The number of elements in the bytes. -/
  elements : Nat

def Tensor.content (t : Tensor) : Content := ⟨t.bytes, t.words.size⟩

def StridedArray.toContent (a : StridedArray) : Except Failure Content :=
  if a.type.kind = .reference then .error .references else .ok ⟨a.content, a.count⟩

def Supplied.toContent (supplied : Supplied) : Except Failure Content := do
  (← StridedArray.ofSupplied supplied).toContent

def occupied : String := "file already exists"

/-- Creates the file, and says why not in terms of the output. -/
def createOutput (path : PathName) : Step Location := do
  match (← Step.tree).create path with
  | .ok (place, t) =>
    Step.setTree t
    return place
  | .error (.refused .alreadyExists _) => throw (.write path.text occupied)
  | .error (.refused fault shown) =>
    throw (.write path.text (Files.Error.message (.refused fault shown)))
  | .error .embeddedNul => throw (.file .embeddedNul)

/-- Removes the file again, and gives the failure to report. -/
def abandonOutput (path : PathName) (cause : Failure) : Step Failure := do
  Step.note .error .tensorFile ("Write to " ++ path.text ++ " failed, removing partial output")
  Step.setTree (← Step.ofFile ((← Step.tree).unlink path))
  return if cause.isSystem then .write path.text cause.message else cause

/-- Writes a new tensor file and gives the number of its bytes. -/
def writeTensor (writer : Writer) (content : Content) (path : PathName) : Step Nat := do
  let place ← createOutput path
  let emission := writer content.bytes
  Step.setTree ((← Step.tree).put place (.file emission.received))
  match emission.outcome with
  | .error cause => throw (← abandonOutput path cause)
  | .ok written =>
    Step.note .debug .tensorFile
      ("Wrote " ++ Text.naturalText written ++ " bytes (" ++ Text.naturalText content.elements ++
        " elements) to " ++ path.text)
    return written

/-- Writes what was supplied as an array. What has no bytes is refused before there is a file. -/
def writeSupplied (writer : Writer) (supplied : Supplied) (path : PathName) : Step Nat := do
  writeTensor writer (← Step.ofExcept supplied.toContent) path

/-- Reads a tensor file. Without a height and a width the elements have one axis. `shown` is the
path in refusals. -/
def readTensor (reach : Reach) (t : Tree) (shown : String)
    (elementType height width layout : Value) : Except Failure Tensor := do
  let element ← ElementType.ofValue reach elementType
  let bytes ← t.read (.ofText shown)
  if bytes.size % element.size ≠ 0 then throw (.unevenFile bytes.size shown element)
  let words := Tensor.wordsOfBytes element bytes
  if height.isNull && width.isNull then return ⟨element, [words.size], words⟩
  if height.isNull || width.isNull then throw .sizeIncomplete
  let h ← height.toInteger
  let w ← width.toInteger
  let shape ← readShape reach (.int h) (.int w) (.int 3) layout
  let expected := computedProduct shape
  if (words.size : Int) ≠ expected then
    Failure.raise (.elementCount shown words.size expected shape)
  else
    match reshape element.size words.size shape with
    | .ok lengths => return ⟨element, lengths, words⟩
    | .error fault => throw (.reshape fault)

end RasterTensor
