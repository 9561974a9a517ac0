/-!
# Front ends, element types and layouts

The three closed lists a conversion chooses from, with the words that name their members.
-/

namespace RasterTensor

/-- The model front end whose preprocessing convention a tensor follows. -/
inductive FrontEnd where
  | caffe
  | tensorflow
  | tflite
  deriving DecidableEq

/-- How one element of a tensor is stored. -/
inductive ElementType where
  | float32
  | int32
  | quantized8
  deriving DecidableEq

/-- The order of the axes of a tensor; the batch comes first and has one member. -/
inductive Layout where
  | nhwc
  | nchw
  deriving DecidableEq

namespace FrontEnd

def all : List FrontEnd := [.caffe, .tensorflow, .tflite]

def name : FrontEnd → String
  | .caffe => "caffe"
  | .tensorflow => "tensorflow"
  | .tflite => "tflite"

end FrontEnd

namespace ElementType

def all : List ElementType := [.float32, .int32, .quantized8]

def name : ElementType → String
  | .float32 => "float"
  | .int32 => "int"
  | .quantized8 => "qasymm8"

def storage : ElementType → String
  | .float32 => "float32"
  | .int32 => "int32"
  | .quantized8 => "uint8"

def size : ElementType → Nat
  | .float32 | .int32 => 4
  | .quantized8 => 1

theorem size_pos (t : ElementType) : 0 < t.size := by cases t <;> decide

end ElementType

namespace Layout

def all : List Layout := [.nhwc, .nchw]

def name : Layout → String
  | .nhwc => "NHWC"
  | .nchw => "NCHW"

end Layout

inductive ChoiceList where
  | frontEnd
  | elementType
  | layout
  deriving DecidableEq

namespace ChoiceList

def noun : ChoiceList → String
  | .frontEnd => "model format"
  | .elementType => "output type"
  | .layout => "data layout"

def names : ChoiceList → List String
  | .frontEnd => FrontEnd.all.map FrontEnd.name
  | .elementType => ElementType.all.map ElementType.name
  | .layout => Layout.all.map Layout.name

/-- The name of the list when a member is shown as such. -/
def title : ChoiceList → String
  | .frontEnd => "ModelFrontEnd"
  | .elementType => "OutputElementType"
  | .layout => "DataLayout"

end ChoiceList

inductive Choice where
  | frontEnd (f : FrontEnd)
  | elementType (t : ElementType)
  | layout (l : Layout)
  deriving DecidableEq

namespace Choice

def list : Choice → ChoiceList
  | .frontEnd _ => .frontEnd
  | .elementType _ => .elementType
  | .layout _ => .layout

def name : Choice → String
  | .frontEnd f => f.name
  | .elementType t => t.name
  | .layout l => l.name

def label : Choice → String
  | .frontEnd .caffe => "CAFFE"
  | .frontEnd .tensorflow => "TENSORFLOW"
  | .frontEnd .tflite => "TFLITE"
  | .elementType .float32 => "FLOAT32"
  | .elementType .int32 => "SIGNED32"
  | .elementType .quantized8 => "QASYMM8"
  | .layout .nhwc => "NHWC"
  | .layout .nchw => "NCHW"

def all : List Choice :=
  FrontEnd.all.map .frontEnd ++ ElementType.all.map .elementType ++ Layout.all.map .layout

def ofLabel? (s : String) : Option Choice := all.find? fun c => c.label == s

end Choice

end RasterTensor
