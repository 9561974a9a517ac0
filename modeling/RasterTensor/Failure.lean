import RasterTensor.Binary.Word
import RasterTensor.Document.Coerce
import RasterTensor.Files.Fault
import RasterTensor.Json.Writer
import RasterTensor.Raster.Fault
import RasterTensor.Text.Utf8

/-!
# Failures

Every reason for which a step of a conversion can fail, and the words for each. A failure whose
words would have to show an integer with too many digits becomes the failure to write that
integer; `Failure.raise` sees to it. Other values are shown before the failure is made, and what
has no text fails in its place.
-/

namespace RasterTensor

open Binary Document Text

/-- How far a failure from outside the library reaches: whether it is the file system's, and
whether it interrupts a run that other failures would end in an orderly way. -/
inductive Nature where
  | ordinary
  | system
  | interrupt
  deriving DecidableEq

structure Foreign where
  name : String
  text : String
  nature : Nature
  deriving DecidableEq

inductive ReshapeFault where
  | severalUnknown
  | sizeMismatch (size : Nat) (shape : List Int)
  | tooLarge
  | tooManyBytes
  deriving DecidableEq

inductive Failure where
  /-- Settings that are not a mapping. -/
  | notSettings (kind : String)
  | unknownKeys (keys : List String)
  | missingKey (name : String)
  | emptyPath (name : String)
  | badDimension (name shown : String)
  | negativeDimension (name shown : String)
  | unknownChoice (list : ChoiceList) (shown : String)
  | unexpectedArgument (callee name : String)
  | missingArguments (callee : String) (names : List String)
  | surplusArguments (callee : String) (takes given : Nat)
  | argumentName
  | argumentsKind (callee kind : String)
  /-- A settings file that cannot be read. -/
  | unknownExtension (suffix path : String)
  | malformedFile (format source : String) (words : Option String)
  | nestedJson (what : String)
  | nestedYaml
  | endlessYaml
  | character (number : Nat)
  | noMoment
  | noYamlReader (source : String)
  | settingsKind (path kind : String)
  | undecodable (error : Utf8Error)
  | moment (fault : MomentFault)
  | malformedNumeral (base : Nat) (text : String)
  /-- Normalization parameters that do not make sense. -/
  | entryCount (scale offset : Nat)
  | zeroScale (scale : List Binary64)
  | zeroDivisor
  | emptyRange (low high : Int)
  | divisionByZero
  | outsideRange (least greatest : Nat) (low high : Int)
  | incompleteProfiles (missing : List (FrontEnd × ElementType))
  | coercion (error : CoercionError)
  | integerTooLong
  | nestedText
  /-- Arrays of the wrong kind or shape. -/
  | notArray (kind : String)
  | notBytes (source storage : String)
  | notRgb (source : String) (shape : List Nat)
  | emptyImage (source : String) (shape : List Nat)
  | notThreeAxes (shape : List Nat)
  | references
  | ragged (shape : List Nat)
  | reshape (fault : ReshapeFault)
  | negativeSize (width height : Int)
  | unfitSize
  /-- Tensor files of the wrong size. -/
  | unevenFile (size : Nat) (path : String) (element : ElementType)
  | sizeIncomplete
  | elementCount (path : String) (count : Nat) (expected : Int) (shape : List Int)
  | shortWrite
  | file (error : Files.Error)
  | raster (fault : Raster.Fault)
  | load (path cause : String)
  | write (path cause : String)
  | report (error : Json.WriteError)
  | unknownName (name : String)
  | foreign (cause : Foreign)

/-- The settings a conversion knows, in alphabetical order. -/
def settingNames : List String :=
  ["element_type", "front_end", "height", "input_path", "layout", "output_path", "width"]

def sentenceList (names : List String) : String :=
  match names.map quoted with
  | [] => ""
  | [a] => a
  | [a, b] => a ++ " and " ++ b
  | parts => commaList parts.dropLast ++ ", and " ++ parts.getLast?.getD ""

def shapeText (shape : List Nat) : String := parenthesized (shape.map naturalText)

/-- A shape in parentheses, with integers that may be negative. -/
def signedShapeText (shape : List Int) : String := parenthesized (shape.map integerText)

def Utf8Fault.words : Utf8Fault → String
  | .invalidStart => "invalid start byte"
  | .invalidContinuation => "invalid continuation byte"
  | .unexpectedEnd => "unexpected end of data"

/-- A single byte at fault is shown, several are located only. -/
def utf8Message (e : Utf8Error) : String :=
  let place := match e.bytes with
    | [b] => "byte 0x" ++ String.ofList (hexadecimal 2 b.toNat) ++ " in position " ++
        naturalText e.position
    | bytes => "bytes in position " ++ naturalText e.position ++ "-" ++
        naturalText (e.position + bytes.length - 1)
  "'utf-8' codec can't decode " ++ place ++ ": " ++ Utf8Fault.words e.fault

def momentMessage : MomentFault → String
  | .year year => "year " ++ naturalText year ++ " is out of range"
  | .month => "month must be in 1..12"
  | .day => "day is out of range for month"
  | .hour => "hour must be in 0..23"
  | .minute => "minute must be in 0..59"
  | .second => "second must be in 0..59"
  | .offset seconds =>
    "offset must be a timedelta strictly between -timedelta(hours=24) and timedelta(hours=24), not "
      ++ durationText seconds ++ "."

/-- A shape as reshaping shows it: negative lengths stand for a length to be found, and are left
out at the front. -/
def reshapeShapeText (shape : List Int) : String :=
  let part (n : Int) : String := if n < 0 then "newaxis" else integerText n
  match shape.dropWhile (· < 0) with
  | [] => "()"
  | [one] => "(" ++ part one ++ ",)"
  | parts => "(" ++ ",".intercalate (parts.map part) ++ ")"

def reshapeMessage : ReshapeFault → String
  | .severalUnknown => "can only specify one unknown dimension"
  | .sizeMismatch size shape =>
    "cannot reshape array of size " ++ naturalText size ++ " into shape " ++ reshapeShapeText shape
  | .tooLarge => "Maximum allowed dimension exceeded"
  | .tooManyBytes =>
    "array is too big; `arr.size * arr.dtype.itemsize` is larger than the maximum possible size."

namespace Failure

def message : Failure → String
  | .notSettings kind => "config must be a dict/object, got " ++ kind
  | .unknownKeys keys =>
    "Unknown config keys: [" ++ commaList (keys.map quoted) ++ "]. Allowed keys: " ++
      commaList settingNames
  | .missingKey name => "config is missing required key " ++ quoted name
  | .emptyPath name => name ++ " must be a non-empty path"
  | .badDimension name shown => name ++ " must be an int >= 0, got " ++ shown
  | .negativeDimension name shown => name ++ " must be >= 0, got " ++ shown
  | .unknownChoice list shown =>
    "Unsupported " ++ list.noun ++ ": " ++ shown ++ ". Choose from: " ++
      commaList list.names ++ "."
  | .unexpectedArgument callee name =>
    callee ++ " got an unexpected keyword argument " ++ quoted name
  | .missingArguments callee names =>
    callee ++ " missing " ++ naturalText names.length ++ " required positional argument" ++
      (if names.length = 1 then "" else "s") ++ ": " ++ sentenceList names
  | .surplusArguments callee takes given =>
    callee ++ " takes " ++ naturalText takes ++ " positional arguments but " ++
      naturalText given ++ " were given"
  | .argumentName => "keywords must be strings"
  | .argumentsKind callee kind => callee ++ " argument after ** must be a mapping, not " ++ kind
  | .unknownExtension suffix path =>
    "Unsupported config extension " ++ quoted suffix ++ " for " ++ quoted path ++
      "; expected one of: .json, .yaml, .yml"
  | .malformedFile format source words =>
    "Invalid " ++ format ++ " in config " ++ quoted source ++ (words.map (": " ++ ·)).getD ""
  | .nestedJson what =>
    "maximum recursion depth exceeded while decoding a JSON " ++ what ++ " from a unicode string"
  | .nestedYaml => "maximum recursion depth exceeded"
  | .endlessYaml => "a value that holds itself"
  | .character number =>
    if fitsSigned 32 number then "chr() arg not in range(0x110000)"
    else "Python int too large to convert to C int"
  | .noMoment => "'NoneType' object has no attribute 'groupdict'"
  | .noYamlReader source =>
    "Reading " ++ quoted source ++
      " requires PyYAML.\nInstall it via:\n  pip install 'pyimgtensor[yaml]'"
  | .settingsKind path kind => "Config " ++ quoted path ++ " must hold an object, got " ++ kind
  | .undecodable error => utf8Message error
  | .moment fault => momentMessage fault
  | .malformedNumeral base text =>
    "invalid literal for int() with base " ++ naturalText base ++ ": " ++ quoted text
  | .entryCount scale offset =>
    "scale/offset must have exactly 3 entries, got " ++ naturalText scale ++ "/" ++
      naturalText offset
  | .zeroScale scale =>
    "scale entries must be non-zero, got " ++ parenthesized (scale.map (Decimal.render .message))
  | .zeroDivisor => "divisor must be non-zero"
  | .emptyRange low high => "Invalid input_range: " ++ signedShapeText [low, high]
  | .divisionByZero => "float division by zero"
  | .outsideRange least greatest low high =>
    "Pixel values [" ++ naturalText least ++ ", " ++ naturalText greatest ++
      "] outside input range " ++ signedShapeText [low, high]
  | .incompleteProfiles missing =>
    "Normalization profile table is missing entries: [" ++
      commaList (missing.map fun (f, t) => parenthesized [quoted f.name, quoted t.name]) ++ "]"
  | .coercion error => error.message
  | .integerTooLong => Json.WriteError.message .integerTooLong
  | .nestedText => "maximum recursion depth exceeded while getting the repr of an object"
  | .notArray kind => "Expected np.ndarray, got <class '" ++ kind ++ "'>"
  | .notBytes source storage => "Expected dtype=uint8 for " ++ source ++ ", got " ++ storage
  | .notRgb source shape =>
    "Expected RGB image shape (H,W,3) for " ++ source ++ ", got " ++ shapeText shape
  | .emptyImage source shape =>
    "Image " ++ source ++ " has an empty dimension: " ++ shapeText shape
  | .notThreeAxes shape => "Expected an (H,W,C) array, got shape " ++ shapeText shape
  | .references => "Cannot change data-type for array of references."
  | .ragged shape =>
    "setting an array element with a sequence. The requested array has an inhomogeneous shape " ++
      "after " ++ naturalText shape.length ++ " dimensions. The detected shape was " ++
      shapeText shape ++ " + inhomogeneous part."
  | .reshape fault => reshapeMessage fault
  | .negativeSize width height =>
    "Resize dimensions must be >= 0, got width=" ++ integerText width ++ ", height=" ++
      integerText height
  | .unfitSize => ""
  | .unevenFile size path element =>
    "File size " ++ naturalText size ++ " of " ++ path ++ " is not a multiple of " ++
      element.storage ++ " itemsize " ++ naturalText element.size
  | .sizeIncomplete => "height and width must be given together"
  | .elementCount path count expected shape =>
    "Tensor " ++ path ++ " holds " ++ naturalText count ++ " elements, expected " ++
      integerText expected ++ " for shape " ++ signedShapeText shape
  | .shortWrite => "short write"
  | .file error => error.message
  | .raster fault => fault.message
  | .load path cause => "Failed to load image file " ++ path ++ ": " ++ cause
  | .write path cause => "Failed to write output file " ++ path ++ ": " ++ cause
  | .report error => error.message
  | .unknownName name => "module 'pyimgtensor' has no attribute " ++ quoted name
  | .foreign cause => cause.text

/-- The integers that the words of a failure show. -/
def shownIntegers : Failure → List Int
  | .emptyRange low high | .outsideRange _ _ low high => [low, high]
  | .negativeSize width height => [width, height]
  | .elementCount _ _ expected shape => expected :: shape
  | _ => []

/-- Fails for a reason, or for lack of words for it. -/
def raise {α : Type} (f : Failure) : Except Failure α :=
  .error (if f.shownIntegers.all fun i => i.natAbs < Decimal.integerLimit then f
    else .integerTooLong)

/-- Where a failure comes from and how far it reaches. -/
def nature : Failure → Nature
  | .file (.refused _ _) | .load _ _ | .write _ _ | .shortWrite => .system
  | .foreign cause => cause.nature
  | _ => .ordinary

/-- Whether a failure is one of the file system, or of a file's content. -/
def isSystem (f : Failure) : Bool := f.nature == .system

def isInterrupt (f : Failure) : Bool := f.nature == .interrupt

end Failure

def liftCoercion {α : Type} : Except CoercionError α → Except Failure α
  | .ok a => .ok a
  | .error e => .error (.coercion e)

def Failure.ofTextFault : TextFault → Failure
  | .integerTooLong => .integerTooLong
  | .nested => .nestedText

def liftText {α : Type} : Except TextFault α → Except Failure α :=
  Except.mapError Failure.ofTextFault

def liftFile {α : Type} : Except Files.Error α → Except Failure α
  | .ok a => .ok a
  | .error e => .error (.file e)

instance : MonadLift (Except CoercionError) (Except Failure) := ⟨liftCoercion⟩

instance : MonadLift (Except TextFault) (Except Failure) := ⟨liftText⟩

instance : MonadLift (Except Files.Error) (Except Failure) := ⟨liftFile⟩

end RasterTensor
