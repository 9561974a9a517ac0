import RasterTensor.Failure

/-!
# What the library offers by name

The public names with the kind of thing each stands for, and the public kinds of error with what
each can also be handled as.
-/

namespace RasterTensor

open Binary Document

inductive OfferedKind where
  | module
  | function
  | type
  deriving DecidableEq

def OfferedKind.name : OfferedKind → String
  | .module => "module"
  | .function => "function"
  | .type => "class"

structure Offered where
  kind : OfferedKind
  name : String
  deriving DecidableEq

namespace Offered

def modules : List String := ["config", "io", "normalization", "preprocessing", "reporting"]

def functions : List String := ["generate_tensor", "get_normalization_parameters"]

def types : List String :=
  ["PipelineStage", "TensorGenResult", "TensorGenConfig", "DataLayout", "ModelFrontEnd",
    "OutputElementType", "NormalizationParameters", "ConfigurationError", "ImageLoadError",
    "TensorGenError", "TensorWriteError"]

def ofName (name : String) : Except Failure Offered :=
  if modules.contains name then .ok ⟨.module, "pyimgtensor." ++ name⟩
  else if functions.contains name then .ok ⟨.function, name⟩
  else if types.contains name then .ok ⟨.type, name⟩
  else .error (.unknownName name)

end Offered

/-- The public kinds of error. -/
inductive ErrorKind where
  | general
  | settings
  | load
  | write
  deriving DecidableEq

namespace ErrorKind

def all : List ErrorKind := [.general, .settings, .load, .write]

def name : ErrorKind → String
  | .general => "TensorGenError"
  | .settings => "ConfigurationError"
  | .load => "ImageLoadError"
  | .write => "TensorWriteError"

def ofName? (s : String) : Option ErrorKind := all.find? fun k => k.name == s

/-- What an error of this kind can be handled as. -/
def isA : ErrorKind → List String
  | .general => ["Exception", "TensorGenError"]
  | .settings => ["ValueError", "Exception", "TensorGenError", "ConfigurationError"]
  | .load => ["OSError", "Exception", "TensorGenError", "ImageLoadError"]
  | .write => ["OSError", "Exception", "TensorGenError", "TensorWriteError"]

end ErrorKind

/-- The public kind of error that a failure is, if it is one. -/
def Failure.kind? : Failure → Option ErrorKind
  | .notSettings _ | .unknownKeys _ | .missingKey _ | .emptyPath _ | .badDimension _ _
  | .negativeDimension _ _ | .unknownChoice _ _ | .unknownExtension _ _ | .malformedFile _ _ _
  | .settingsKind _ _ | .entryCount _ _ | .zeroScale _ | .zeroDivisor | .emptyRange _ _ =>
    some .settings
  | .load _ _ => some .load
  | .write _ _ => some .write
  | _ => none

/-- Whether a failure refuses a value that is of the right kind but makes no sense. -/
def Failure.refusesValue : Failure → Bool
  | .undecodable _ | .moment _ | .malformedNumeral _ _ | .outsideRange _ _ _ _ | .integerTooLong
  | .notBytes _ _ | .notRgb _ _ | .emptyImage _ _ | .notThreeAxes _ | .ragged _ | .reshape _
  | .negativeSize _ _ | .unevenFile _ _ _ | .sizeIncomplete | .elementCount _ _ _ _
  | .report .integerTooLong | .file .embeddedNul => true
  | .coercion (.malformedFloat _) | .coercion (.malformedInteger _)
  | .coercion (.integerTooLong _) | .coercion .nanToInteger
  | .coercion (.pairLength _ _) => true
  | .character number => fitsSigned 32 number
  | f => f.kind? == some .settings

/-- An error as it is made from arguments: its text, and the path and the cause if it has
them. -/
structure ErrorSummary where
  text : String
  subject : Option (String × Value)

namespace ErrorSummary

/-- An error about a path takes a path and a cause. -/
def aboutPath (reach : Reach) (kind : ErrorKind) (failure : String → String → Failure) :
    List Value → Except Failure ErrorSummary
  | [path, cause] => do
    let shown ← path.plain reach.plain
    return ⟨(failure shown (← cause.plain reach.plain)).message, some (shown, cause)⟩
  | arguments =>
    let callee := kind.name ++ ".__init__()"
    if arguments.length < 2 then
      .error (.missingArguments callee (["path", "cause"].drop arguments.length))
    else .error (.surplusArguments callee 3 (arguments.length + 1))

def ofArguments (reach : Reach) (kind : ErrorKind) (arguments : List Value) :
    Except Failure ErrorSummary :=
  match kind, arguments with
  | .load, _ => aboutPath reach kind .load arguments
  | .write, _ => aboutPath reach kind .write arguments
  | _, [] => .ok ⟨"", none⟩
  | _, [one] => do return ⟨← one.plain reach.plain, none⟩
  | _, _ => do return ⟨← (Value.tuple arguments).plain reach.plain, none⟩

end ErrorSummary

end RasterTensor
