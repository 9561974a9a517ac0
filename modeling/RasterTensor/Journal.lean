/-!
# The journal of a run

What a run says about itself while it goes on, from details to failures.
-/

namespace RasterTensor

inductive Severity where
  | debug
  | info
  | error
  deriving DecidableEq

def Severity.name : Severity → String
  | .debug => "DEBUG"
  | .info => "INFO"
  | .error => "ERROR"

inductive Speaker where
  | conversion
  | resizing
  | tensorFile
  deriving DecidableEq

def Speaker.name : Speaker → String
  | .conversion => "pyimgtensor.pipeline"
  | .resizing => "pyimgtensor.preprocessing.resize"
  | .tensorFile => "pyimgtensor.io.tensor"

structure Note where
  severity : Severity
  speaker : Speaker
  text : String
  deriving DecidableEq

namespace Note

/-- A note with its severity and its speaker. -/
def labelled (n : Note) : String :=
  n.severity.name ++ " " ++ n.speaker.name ++ ": " ++ n.text ++ "\n"

/-- What is printed when nobody asked for a journal: failures alone, without labels. -/
def unasked (notes : List Note) : String :=
  String.join ((notes.filter fun n => n.severity == .error).map fun n => n.text ++ "\n")

/-- What is printed when the journal was asked for: everything. -/
def asked (notes : List Note) : String := String.join (notes.map labelled)

end Note

end RasterTensor
