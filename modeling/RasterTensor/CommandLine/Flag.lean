import RasterTensor.Choice
import RasterTensor.Text.Quoted

/-!
# Flags of the command line

The flags with their spellings and with what each takes as its value, the ways in which arguments
can be wrong, and the texts that explain the flags.
-/

namespace RasterTensor.CommandLine

open Text

inductive Flag where
  | help
  | config
  | input
  | frontEnd
  | output
  | elementType
  | width
  | height
  | layout
  | report
  | verbose
  deriving DecidableEq

/-- What a flag takes as its value. -/
inductive Operand where
  | nothing
  | anything
  | integer
  | oneOf (names : List String)

namespace Flag

def all : List Flag :=
  [.help, .config, .input, .frontEnd, .output, .elementType, .width, .height, .layout, .report,
    .verbose]

def spellings : Flag → List String
  | .help => ["-h", "--help"]
  | .config => ["--config"]
  | .input => ["-i", "--infile"]
  | .frontEnd => ["-f", "--model-format"]
  | .output => ["-o", "--outfile"]
  | .elementType => ["-z", "--output-type"]
  | .width => ["--new-width"]
  | .height => ["--new-height"]
  | .layout => ["-l", "--layout"]
  | .report => ["--save-report"]
  | .verbose => ["-v", "--verbose"]

def operand : Flag → Operand
  | .help | .verbose => .nothing
  | .config | .input | .output | .report => .anything
  | .width | .height => .integer
  | .frontEnd => .oneOf ChoiceList.frontEnd.names
  | .elementType => .oneOf ChoiceList.elementType.names
  | .layout => .oneOf ChoiceList.layout.names

def takesValue (f : Flag) : Bool :=
  match f.operand with
  | .nothing => false
  | _ => true

def spelled : List (List Char × Flag) := all.flatMap fun f => f.spellings.map fun s => (s.toList, f)

def ofSpelling? (cs : List Char) : Option Flag := spelled.lookup cs

def shown (f : Flag) : String := "/".intercalate f.spellings

end Flag

inductive UsageError where
  | valueMissing (flag : Flag)
  | valueIgnored (flag : Flag) (text : String)
  | notOneOf (flag : Flag) (names : List String) (text : String)
  | notInteger (flag : Flag) (text : String)
  | ambiguous (text : String) (candidates : List String)
  | unrecognized (arguments : List String)
  deriving DecidableEq

def UsageError.message : UsageError → String
  | .valueMissing flag => "argument " ++ flag.shown ++ ": expected one argument"
  | .valueIgnored flag text =>
    "argument " ++ flag.shown ++ ": ignored explicit argument " ++ quoted text
  | .notOneOf flag names text =>
    "argument " ++ flag.shown ++ ": invalid choice: " ++ quoted text ++ " (choose from " ++
      commaList (names.map quoted) ++ ")"
  | .notInteger flag text =>
    "argument " ++ flag.shown ++ ": invalid int value: " ++ quoted text
  | .ambiguous text candidates =>
    "ambiguous option: " ++ text ++ " could match " ++ commaList candidates
  | .unrecognized arguments => "unrecognized arguments: " ++ " ".intercalate arguments

def commandName : String := "pyimgtensor"

def usage : String :=
  "usage: pyimgtensor [-h] [--config CONFIG] [-i INFILE]\n" ++
  "                   [-f \x7bcaffe,tensorflow,tflite\x7d] [-o OUTFILE]\n" ++
  "                   [-z \x7bfloat,int,qasymm8\x7d] [--new-width NEW_WIDTH]\n" ++
  "                   [--new-height NEW_HEIGHT] [-l \x7bNHWC,NCHW\x7d]\n" ++
  "                   [--save-report SAVE_REPORT] [-v]\n"

def help : String :=
  usage ++
  "\nConvert an image into a raw input tensor file for a model front-end.\n" ++
  "\noptions:\n" ++
  "  -h, --help            show this help message and exit\n" ++
  "  --config CONFIG       Optional JSON/YAML file with default options (flags\n" ++
  "                        override it)\n" ++
  "  -i INFILE, --infile INFILE\n" ++
  "                        Input image file to generate tensor from\n" ++
  "  -f \x7bcaffe,tensorflow,tflite\x7d, --model-format \x7bcaffe,tensorflow,tflite\x7d\n" ++
  "                        Format of the intended model. Different formats have\n" ++
  "                        different image normalization styles.\n" ++
  "  -o OUTFILE, --outfile OUTFILE\n" ++
  "                        Output raw tensor file path (must not exist)\n" ++
  "  -z \x7bfloat,int,qasymm8\x7d, --output-type \x7bfloat,int,qasymm8\x7d\n" ++
  "                        Data type of the output tensor. Default: float\n" ++
  "  --new-width NEW_WIDTH\n" ++
  "                        Resize image to new width. Keep original width if\n" ++
  "                        unspecified or 0\n" ++
  "  --new-height NEW_HEIGHT\n" ++
  "                        Resize image to new height. Keep original height if\n" ++
  "                        unspecified or 0\n" ++
  "  -l \x7bNHWC,NCHW\x7d, --layout \x7bNHWC,NCHW\x7d\n" ++
  "                        Output data layout. Default: NHWC\n" ++
  "  --save-report SAVE_REPORT\n" ++
  "                        Optional JSON path describing the tensor shape/type\n" ++
  "                        (sidecar metadata)\n" ++
  "  -v, --verbose         Enable debug logging\n"

end RasterTensor.CommandLine
