import RasterTensor.CommandLine.Request
import RasterTensor.Report
import RasterTensor.Settings.File

/-!
# Running a command

Settings come from a settings file, if one is named, with the values of the flags written over
them. The path names are looked at before anything else is, then the image is converted, then the
report is saved, if one is asked for, and last a line about the tensor is printed. A failure at any
of these points ends the command with a message; an interrupt passes through.
-/

namespace RasterTensor.CommandLine

open Document Files Text

/-- What a command runs on: the parts that the system or other libraries supply. -/
structure Host where
  origin : Report.Origin
  /-- The readers of settings files. -/
  readers : SettingsFile.Readers Entries
  /-- How many levels of members are followed where a path name is looked at. -/
  pathReach : Nat
  /-- The same where settings are made. -/
  reach : Reach
  decoder : Raster.Decoder
  resample : Resampler
  /-- What tensor files are written to. -/
  device : Device
  /-- How many levels of members are followed in a report. -/
  reportDepth : Nat
  /-- What reports are written to. -/
  sink : Report.Sink
  /-- How printing a text breaks off, if it does: what is printed until then, and why. -/
  console : String → Option (String × Failure)

inductive Complaint where
  | noInput
  | inputMissing (path : String)
  | inputIsDirectory (path : String)
  | noOutput
  | outputIsDirectory (path : String)
  | outputExists (path : String)
  | noDirectory (path : String)
  | noFrontEnd
  | failure (cause : Failure)

def Complaint.message : Complaint → String
  | .noInput => "No input file name specified"
  | .inputMissing path => "Input file [" ++ path ++ "] does not exist"
  | .inputIsDirectory path => "Input file [" ++ path ++ "] is a directory"
  | .noOutput => "No output file name specified"
  | .outputIsDirectory path => "Output file [" ++ path ++ "] is a directory"
  | .outputExists path => "Output file [" ++ path ++ "] already exists"
  | .noDirectory path => "Output directory [" ++ path ++ "] does not exist"
  | .noFrontEnd => "No model format specified (use --model-format)"
  | .failure cause => cause.message

def Complaint.isInterrupt : Complaint → Bool
  | .failure cause => cause.isInterrupt
  | _ => false

instance : MonadLift (Except Failure) (Except Complaint) := ⟨Except.mapError .failure⟩

/-- A path name from a value that has to be there and not to be blank. -/
def givenPath (depth : Nat) (absent : Complaint) : Option Value → Except Complaint PathName
  | none | some .null => .error absent
  | some v => do
    let text ← liftText (v.plain depth)
    if isBlankText text then throw absent
    return .ofText text

def inputPath (depth : Nat) (t : Tree) (v : Option Value) : Except Complaint PathName := do
  let path ← givenPath depth .noInput v
  if !(← liftFile (t.contains path)) then throw (.inputMissing path.text)
  if ← liftFile (t.isDirectory path) then throw (.inputIsDirectory path.text)
  return path

def outputPath (depth : Nat) (t : Tree) (v : Option Value) : Except Complaint PathName := do
  let path ← givenPath depth .noOutput v
  if ← liftFile (t.isDirectory path) then throw (.outputIsDirectory path.text)
  if ← liftFile (t.contains path) then throw (.outputExists path.text)
  if !(← liftFile (t.contains path.parent)) then throw (.noDirectory path.parent.text)
  return path

namespace Invocation

def overrides (v : Invocation) : Entries :=
  [("input_path", v.input.map Value.text), ("output_path", v.output.map Value.text),
    ("front_end", v.frontEnd.map Value.text), ("element_type", v.elementType.map Value.text),
    ("width", v.width.map Value.int), ("height", v.height.map Value.int),
    ("layout", v.layout.map Value.text)].filterMap fun (name, value) =>
      value.map fun value => (Value.text name, value)

/-- The entries of the settings file with those of the flags written over them. -/
def options (v : Invocation) (readers : SettingsFile.Readers Entries) (t : Tree) :
    Except Failure Entries := do
  let base ← match v.config with
    | none => .ok []
    | some path => SettingsFile.load readers t (.ofText path)
  return Entries.overlay base v.overrides

def settings (v : Invocation) (host : Host) (t : Tree) : Except Complaint Settings := do
  let options ← v.options host.readers t
  let input ← inputPath host.pathReach t (options.field? "input_path")
  let output ← outputPath host.pathReach t (options.field? "output_path")
  match options.field? "front_end" with
  | none | some .null => throw .noFrontEnd
  | some _ =>
    Settings.ofEntries host.reach ((options.put (.text "input_path") (.text input.text)).put
      (.text "output_path") (.text output.text))

def saveReport (v : Invocation) (host : Host) (summary : TensorSummary) (s : Settings) :
    Step Unit :=
  match v.report with
  | none | some "" => pure ()
  | some path =>
    Step.change (Report.save host.reportDepth host.sink (.ofText path)
      (.mapping (Report.build host.origin summary (some s))))

def perform (v : Invocation) (host : Host) (s : Settings) : Step TensorSummary := do
  let summary ← Conversion.run host.resample (.chunked host.device) (.reading host.decoder) none s
  v.saveReport host summary s
  return summary

def printed (v : Invocation) (notes : List Note) : String :=
  if v.verbose then Note.asked notes else Note.unasked notes

end Invocation

/-- How a command ends: after its work, on account of its arguments alone, or by an interrupt. -/
inductive Status where
  | finished (code : Nat)
  | dismissed (code : Nat)
  | interrupted
  deriving DecidableEq

/-- What a command comes to: its status and what it prints. -/
structure Outcome where
  status : Status
  out : String
  err : String
  deriving DecidableEq

def successLine (r : TensorSummary) : String :=
  "wrote " ++ r.outputPath.text ++ " shape=[" ++ commaList (r.shape.map naturalText) ++
    "] dtype=" ++ r.elementType.storage ++ " bytes=" ++ naturalText r.byteCount ++ "\n"

def errorLine (c : Complaint) : String := "error: " ++ c.message ++ "\n"

/-- How a command ends that failed, after it printed `out` and the notes. -/
def Outcome.ofComplaint (out notes : String) (c : Complaint) : Outcome :=
  if c.isInterrupt then ⟨.interrupted, out, notes⟩
  else ⟨.finished 1, out, notes ++ errorLine c⟩

/-- The outcome of the work, which is printed where it succeeded. -/
def Outcome.ofResult (host : Host) (notes : String) : Except Failure TensorSummary → Outcome
  | .error f => .ofComplaint "" notes (.failure f)
  | .ok summary =>
    match host.console (successLine summary) with
    | none => ⟨.finished 0, successLine summary, notes⟩
    | some (out, f) => .ofComplaint out notes (.failure f)

def Request.run (host : Host) (t : Tree) : Request → Outcome × Tree
  | .help => (⟨.dismissed 0, CommandLine.help, ""⟩, t)
  | .convert v =>
    match v.settings host t with
    | .error c => (.ofComplaint "" "" c, t)
    | .ok s =>
      let (result, scene) := (v.perform host s).play (.opening t)
      (.ofResult host (v.printed scene.notes) result, scene.tree)

/-- Runs the command with arguments on the files of a tree. -/
def run (host : Host) (arguments : List String) (t : Tree) : Outcome × Tree :=
  match Request.ofArguments arguments with
  | .error e =>
    (⟨.dismissed 2, "", usage ++ commandName ++ ": error: " ++ e.message ++ "\n"⟩, t)
  | .ok request => request.run host t

end RasterTensor.CommandLine
