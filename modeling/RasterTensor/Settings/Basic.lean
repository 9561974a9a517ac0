import RasterTensor.Choice.Reading
import RasterTensor.Files.PathName

/-!
# Settings of a conversion

What a conversion reads, what it writes, and how. Settings come from a mapping, where an absent
entry and one without a value mean the default, or from arguments, where an argument without a
value is a value like any other. A width or height of zero keeps that of the image.
-/

namespace RasterTensor

open Document Files

structure Settings where
  inputPath : PathName
  outputPath : PathName
  frontEnd : FrontEnd
  elementType : ElementType
  width : Nat
  height : Nat
  layout : Layout
  deriving DecidableEq

namespace Settings

structure Fields where
  inputPath : Value
  outputPath : Value
  frontEnd : Value
  elementType : Value := .choice (.elementType .float32)
  width : Value := .int 0
  height : Value := .int 0
  layout : Value := .choice (.layout .nhwc)

/-- The entries there are to settings, in the order in which settings are listed. -/
def names : List String :=
  ["input_path", "output_path", "front_end", "element_type", "width", "height", "layout"]

def requiredNames : List String := ["input_path", "output_path", "front_end"]

/-- A path name: any value whose text is not blank. -/
def readPath (reach : Reach) (name : String) (v : Value) : Except Failure PathName := do
  if v.isNull then throw (.emptyPath name)
  let text ← v.plain reach.plain
  if Text.isBlankText text then throw (.emptyPath name)
  return .ofText text

/-- Whether a value is kept from being read as an integer: truth values, and floats that are
no integers. -/
def isFractional : Value → Bool
  | .bool _ => true
  | .float x => !x.number.isInteger
  | _ => false

/-- The refusal of a value that is no integer. -/
def refuseDimension (reach : Reach) (name : String) (v : Value) : Except Failure Nat := do
  throw (.badDimension name (← v.shown reach.shown))

/-- A width or height. No value is zero. -/
def readDimension (reach : Reach) (name : String) (v : Value) : Except Failure Nat :=
  if v.isNull then .ok 0
  else if isFractional v then refuseDimension reach name v
  else
    match v.toInteger with
    | .error _ => refuseDimension reach name v
    | .ok (.ofNat n) => .ok n
    | .ok i => do throw (.negativeDimension name (← integerShown i))

def ofFields (reach : Reach) (fields : Fields) : Except Failure Settings := do
  let inputPath ← readPath reach "input_path" fields.inputPath
  let outputPath ← readPath reach "output_path" fields.outputPath
  let frontEnd ← FrontEnd.ofValue reach fields.frontEnd
  let elementType ← ElementType.ofValue reach fields.elementType
  let width ← readDimension reach "width" fields.width
  let height ← readDimension reach "height" fields.height
  let layout ← Layout.ofValue reach fields.layout
  return { inputPath, outputPath, frontEnd, elementType, width, height, layout }

/-- Whether a key is the name of one of the settings. -/
def isKnown (key : Value) : Bool := names.any fun name => key.sameKey (.text name)

def ofArguments (reach : Reach) (arguments : Entries) : Except Failure Settings := do
  let callee := "TensorGenConfig.__init__()"
  for (key, _) in arguments do
    match key with
    | .text name => if !names.contains name then throw (.unexpectedArgument callee name)
    | _ => throw .argumentName
  let given (name : String) : Option Value := Entries.field? name arguments
  match given "input_path", given "output_path", given "front_end" with
  | some inputPath, some outputPath, some frontEnd =>
    let fields : Fields := { inputPath, outputPath, frontEnd }
    ofFields reach { fields with
      elementType := (given "element_type").getD fields.elementType
      width := (given "width").getD fields.width
      height := (given "height").getD fields.height
      layout := (given "layout").getD fields.layout }
  | _, _, _ =>
    throw (.missingArguments callee (requiredNames.filter fun name => (given name).isNone))

/-- The value of an entry, when it has one. -/
def fieldValue? (name : String) (entries : Entries) : Option Value :=
  (Entries.field? name entries).filter fun v => !v.isNull

def requiredValue (name : String) (entries : Entries) : Except Failure Value :=
  match fieldValue? name entries with
  | some v => .ok v
  | none => .error (.missingKey name)

/-- Texts in the order of their characters' numbers. -/
def sortTexts (texts : List String) : List String := texts.mergeSort fun s t => !(t < s)

/-- The keys that are not the name of one of the settings. -/
def unknownKeys (entries : Entries) : List Value :=
  (entries.map Prod.fst).filter fun key => !isKnown key

/-- The keys of a mapping have to be names of settings. The texts of the others are made one after
another and sorted when all of them are there, so a key without a text fails first. -/
def checkKeys (reach : Reach) (entries : Entries) : Except Failure Unit := do
  let texts ← liftText ((unknownKeys entries).mapM fun key => key.plain reach.key)
  if !texts.isEmpty then throw (.unknownKeys (sortTexts texts))

def ofEntries (reach : Reach) (entries : Entries) : Except Failure Settings := do
  checkKeys reach entries
  let inputPath ← requiredValue "input_path" entries
  let outputPath ← requiredValue "output_path" entries
  let frontEnd ← requiredValue "front_end" entries
  let fields : Fields := { inputPath, outputPath, frontEnd }
  ofFields reach { fields with
    elementType := (fieldValue? "element_type" entries).getD fields.elementType
    width := (fieldValue? "width" entries).getD fields.width
    height := (fieldValue? "height" entries).getD fields.height
    layout := (fieldValue? "layout" entries).getD fields.layout }

def ofValue (reach : Reach) : Value → Except Failure Settings
  | .mapping entries => ofEntries reach entries
  | v => .error (.notSettings v.kind)

/-- Settings as the entries that they can be read from again. -/
def toEntries (s : Settings) : Entries :=
  [(.text "input_path", .text s.inputPath.text),
    (.text "output_path", .text s.outputPath.text),
    (.text "front_end", .text s.frontEnd.name),
    (.text "element_type", .text s.elementType.name),
    (.text "width", .int s.width),
    (.text "height", .int s.height),
    (.text "layout", .text s.layout.name)]

end Settings

end RasterTensor
