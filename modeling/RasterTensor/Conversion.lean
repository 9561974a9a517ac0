import RasterTensor.Normalization.Profile
import RasterTensor.Raster.Load
import RasterTensor.Scene
import RasterTensor.Settings.Basic
import RasterTensor.Tensor.Resize
import RasterTensor.Tensor.Store

/-!
# Converting an image

An image is loaded, resized, normalized and written to a new tensor file. The observer is told of
each stage as it is reached, and its own failure ends the run as any other does. A failure after
the first stage is noted, announced as the stage `failed`, and given as the outcome; an interrupt
ends the run at once.
-/

namespace RasterTensor

open Document Files Text

/-- Gives the image at a path name, and may change the files. -/
abbrev Loader := PathName → Tree → Except Failure Supplied × Tree

/-- What is told of stages. It may fail and may change the files. -/
abbrev Observer := Stage → Tree → Except Failure Unit × Tree

def Loader.reading (decoder : Raster.Decoder) : Loader := fun path tree =>
  ((Raster.loadWith decoder tree path.text).map fun image => .array image.toArray, tree)

def Loader.standard : Loader := .reading .standard

/-- What was written, and what it takes to read it. -/
structure TensorSummary where
  outputPath : PathName
  shape : List Nat
  elementType : ElementType
  layout : Layout
  byteCount : Nat
  parameters : Parameters
  deriving DecidableEq

namespace TensorSummary

def elementCount (r : TensorSummary) : Nat := r.shape.foldl (· * ·) 1

def toEntries (r : TensorSummary) : Entries :=
  [(.text "output_path", .text r.outputPath.text),
    (.text "shape", .list (r.shape.map fun n : Nat => .int n)),
    (.text "layout", .text r.layout.name),
    (.text "element_type", .text r.elementType.name),
    (.text "dtype", .text r.elementType.storage),
    (.text "num_elements", .int r.elementCount),
    (.text "num_bytes", .int r.byteCount),
    (.text "normalization", .mapping r.parameters.toEntries)]

end TensorSummary

def Layout.shape (layout : Layout) (height width : Nat) : List Nat :=
  match layout with
  | .nhwc => [1, height, width, 3]
  | .nchw => [1, 3, height, width]

namespace Conversion

def advance (observer : Option Observer) (stage : Stage) : Step Unit := do
  modify fun s => { s with reached := s.reached ++ [stage] }
  match observer with
  | none => pure ()
  | some observe => Step.change (observe stage)

def loadImage (loader : Loader) (path : PathName) : Step PixelBuffer := do
  modify fun s => { s with loaded := s.loaded ++ [path] }
  let supplied ← Step.change (loader path)
  Step.ofExcept (PixelBuffer.ofSupplied path.text supplied)

def sizeText (width height : Nat) : String := naturalText width ++ "x" ++ naturalText height

def resizeImage (resample : Resampler) (image : PixelBuffer) (width height : Nat) :
    Step PixelBuffer := do
  let w := Resize.resolve width image.width
  let h := Resize.resolve height image.height
  if h ≠ image.height ∨ w ≠ image.width then
    Step.note .debug .resizing
      ("Resizing " ++ sizeText image.width image.height ++ " -> " ++ sizeText w h)
  Step.ofExcept (image.resize resample width height)

/-- The stages from the loading of the image to the file. -/
def produce (resample : Resampler) (writer : Writer) (loader : Loader)
    (observer : Option Observer) (s : Settings) : Step TensorSummary := do
  if ← Step.ofFile ((← Step.tree).contains s.outputPath) then
    throw (.write s.outputPath.text occupied)
  let parameters := Profile.parameters s.frontEnd s.elementType
  let image ← loadImage loader s.inputPath
  advance observer .loaded
  Step.note .debug .conversion
    ("Loaded " ++ s.inputPath.text ++ " with shape " ++ shapeText image.shape)
  let image ← resizeImage resample image s.width s.height
  advance observer .resized
  let tensor ← Step.ofExcept (parameters.normalize image s.layout s.elementType)
  advance observer .normalized
  let byteCount ← writeTensor writer tensor.content s.outputPath
  advance observer .serialized
  return { outputPath := s.outputPath, shape := s.layout.shape image.height image.width,
           elementType := s.elementType, layout := s.layout, byteCount, parameters }

/-- What a failed run still does. -/
def concede {α : Type} (observer : Option Observer) (cause : Failure) : Step α := do
  if !cause.isInterrupt then
    let last := ((← get).reached.getLast?.map Stage.name).getD ""
    Step.note .error .conversion ("Tensor generation failed after stage " ++ quoted last)
    advance observer .failed
  throw cause

/-- Converts the image at the input path into a tensor file at the output path. -/
def run (resample : Resampler) (writer : Writer) (loader : Loader) (observer : Option Observer)
    (s : Settings) : Step TensorSummary := do
  advance observer .configured
  Step.note .info .conversion
    ("Generating " ++ s.frontEnd.name ++ "/" ++ s.elementType.name ++ " tensor (" ++
      s.layout.name ++ ") from " ++ s.inputPath.text)
  let summary ← tryCatch (produce resample writer loader observer s) (concede observer)
  advance observer .done
  Step.note .info .conversion
    ("Wrote " ++ naturalText summary.byteCount ++ " bytes to " ++ s.outputPath.text ++
      " (shape=" ++ shapeText summary.shape ++ ")")
  return summary

end Conversion

end RasterTensor
