import RasterTensor.Conversion

/-!
# Reports

A tensor file says nothing about its shape, so a report beside it records how to read it. A
report is a mapping with the tensor's summary and the settings, stamped with the version of its
own form, the time and the version of the library. It is saved as JSON.

Saving empties a file that is there before the text is written, so when the writing fails a part of
the text is all that is left.
-/

namespace RasterTensor

open Document Files

namespace Report

def schemaVersion : Int := 1

/-- When a report is made, and by which version of the library, if that is known. -/
structure Origin where
  time : Moment
  version : Option String

/-- Adds the entries of a stamp to a report. What is there already stays. -/
def stamp (origin : Origin) (report : Entries) : Entries :=
  let version := match origin.version with
    | some v => Value.text v
    | none => .null
  ((report.putNew (.text "schema_version") (.int schemaVersion)).putNew
    (.text "timestamp_utc") (.text origin.time.compactText)).putNew
    (.text "pyimgtensor_version") version

/-- Stamps a report that is given as a value: a mapping, or a sequence of pairs. -/
def stampValue (origin : Origin) (report : Value) : Except Failure Entries :=
  liftCoercion (report.toEntries.map (stamp origin))

/-- The report on a tensor file, with the settings if they are given. -/
def build (origin : Origin) (summary : TensorSummary) (settings : Option Settings) : Entries :=
  let tensor := (Value.text "tensor", Value.mapping summary.toEntries)
  match settings with
  | none => stamp origin [tensor]
  | some s => stamp origin [tensor, (.text "config", .mapping s.toEntries)]

/-- How the system takes a file: as a whole, in part, or not at all. -/
inductive Reception where
  | complete
  /-- The file was emptied and took this many bytes. -/
  | cutShort (stored : Nat) (cause : Failure)
  /-- The file was not opened. -/
  | refused (cause : Failure)

/-- Where a report is written to, by its answer to the text. -/
abbrev Sink := ByteArray → Reception

def Sink.plain : Sink := fun _ => .complete

/-- The outcome of writing a text, and what the file holds after it, if it was opened. -/
def Reception.result (content : ByteArray) : Reception → Except Failure Unit × Option ByteArray
  | .complete => (.ok (), some content)
  | .cutShort stored cause => (.error cause, some (content.extract 0 stored))
  | .refused cause => (.error cause, none)

/-- Saves a value as JSON, which follows its members down to `depth`. The directories on the way are
made first and stay when the value has no text or the file cannot be written. -/
def save (depth : Nat) (sink : Sink) (path : PathName) (report : Value) (tree : Tree) :
    Except Failure Unit × Tree :=
  match tree.ensurePath path.parent with
  | (.error e, tree) => (.error (.file e), tree)
  | (.ok (), tree) =>
    match Json.write depth 0 report with
    | .error e => (.error (.report e), tree)
    | .ok text =>
      let content := (String.ofList text).toUTF8
      match (sink content).result content with
      | (outcome, none) => (outcome, tree)
      | (outcome, some stored) =>
        match tree.write path stored with
        | .error e => (.error (.file e), tree)
        | .ok tree => (outcome, tree)

end Report

end RasterTensor
