import RasterTensor.Choice.Reading
import RasterTensor.Normalization.Parameters

/-!
# Normalization profiles

The fixed parameters of each front end for each element type.
-/

namespace RasterTensor

open Binary

namespace Parameters

def identity : Parameters where
  scale := .all (.ofInt 1)
  offset := .all (.ofInt 0)
  swap := false
  low := 0
  high := 255

def halfSpan : Binary64 := .ofNumber (.finite false 255 (-1))

/-- Takes the samples to the interval from -1 to 1. -/
def symmetric : Parameters :=
  { identity with scale := .all (.ofInt 1 / halfSpan), offset := .all halfSpan }

/-- Takes the samples to the interval from -128 to 127. -/
def centered : Parameters := { identity with offset := .all (.ofInt 128) }

end Parameters

namespace Profile

def parameters : FrontEnd → ElementType → Parameters
  | .caffe, _ | _, .quantized8 => .identity
  | _, .float32 => .symmetric
  | _, .int32 => .centered

def pairs : List (FrontEnd × ElementType) :=
  FrontEnd.all.flatMap fun f => ElementType.all.map fun t => (f, t)

abbrev Table := List ((FrontEnd × ElementType) × Parameters)

def table : Table := pairs.map fun pair => (pair, parameters pair.1 pair.2)

def missing (profiles : Table) : List (FrontEnd × ElementType) :=
  pairs.filter fun pair => (profiles.lookup pair).isNone

def checkComplete (profiles : Table) : Except Failure Unit :=
  if (missing profiles).isEmpty then .ok () else .error (.incompleteProfiles (missing profiles))

/-- The profile of a front end and an element type, each given by name or as itself. -/
def ofValues (reach : Document.Reach) (frontEnd elementType : Document.Value) :
    Except Failure Parameters := do
  return parameters (← FrontEnd.ofValue reach frontEnd) (← ElementType.ofValue reach elementType)

end Profile

end RasterTensor
