import RasterTensor.CommandLine.Run
import Std.Time.DateTime

/-!
# The command

What a command may look at is read into a tree, the command runs on the tree, and what it has
changed there is written back.
-/

namespace RasterTensor.CommandLine

open Document Files

/-- The path names that a command looks at, as far as the files read so far tell. -/
def pathNames (host : Host) (arguments : List String) (t : Tree) : List PathName :=
  match Request.ofArguments arguments with
  | .error _ | .ok .help => []
  | .ok (.convert v) =>
    let named := [v.config, v.report].filterMap fun path => path.map PathName.ofText
    match v.options host.readers t with
    | .error _ => named
    | .ok options =>
      named ++ ["input_path", "output_path"].filterMap fun name =>
        (options.field? name).bind fun value =>
          match value.plain host.pathReach with
          | .ok text => some (.ofText text)
          | .error _ => none

/-- The entries of the second tree that the first one has not, in the order in which they were
made. -/
def changes (before after : Tree) : List (Location × Entry) :=
  after.entries.reverse.filter fun (place, entry) =>
    match before.get? place, entry with
    | some .directory, .directory => false
    | some (.file old), .file new => old != new
    | _, _ => true

def systemPath (place : Location) : String := .ofList ('/' :: joinSlashes place)

def surveyPlace (t : Tree) (place : Location) : IO Tree := do
  let path := (← IO.currentDir) / systemPath place
  if (t.get? place).isSome || !(← path.pathExists) then return t
  if ← path.isDir then return t.put place .directory
  return t.put place (.file (← IO.FS.readBinFile path))

/-- Adds to a tree what the system has on the way to a path name and there. -/
def survey (t : Tree) (p : PathName) : IO Tree := do
  let mut tree := t
  let mut place := if p.slashes = 0 then t.home else []
  for part in p.parts do
    place := place.step part
    tree ← surveyPlace tree place
  return tree

def store (place : Location) (entry : Entry) : IO Unit := do
  let path := (← IO.currentDir) / systemPath place
  match entry with
  | .directory => IO.FS.createDir path
  | .file content => IO.FS.writeBinFile path content

/-- The tree with nothing but the working directory and those that lead to it. -/
def workingTree : IO Tree := do
  let home := (PathName.ofText (← IO.currentDir).toString).parts
  let above := (List.range home.length).map fun n => (home.take (n + 1), Entry.directory)
  return ⟨above, home⟩

def origin : IO Report.Origin := do
  let now ← Std.Time.Timestamp.now
  let seconds := now.toSecondsSinceUnixEpoch.val.toNat
  let microsecond := now.val.nano.val.toNat / 1000
  return ⟨.ofSeconds seconds microsecond, some "0.1.0"⟩

/-- The depths are those that an interpreter with room for a thousand calls leaves. -/
def host : IO Host := do
  return {
    origin := ← origin
    readers :=
      ⟨SettingsFile.jsonReader ⟨985, fun _ => '\uFFFD'⟩, some (SettingsFile.yamlReader 480)⟩
    pathReach := 980
    reach := ⟨980, 980, 980⟩
    decoder := .standard
    resample := .bilinear
    device := fun _ => .acceptAll
    reportDepth := 980
    sink := .plain
    console := fun _ => none }

/-- The exit code of a status, that of an interrupt as shells give it. -/
def Status.code : Status → Nat
  | .finished code | .dismissed code => code
  | .interrupted => 130

/-- The tree with everything that a command looks at. A settings file can name further paths, so
they are collected again once it was read. -/
def surveyAll (host : Host) (arguments : List String) : IO Tree := do
  let named ← (pathNames host arguments (← workingTree)).foldlM survey (← workingTree)
  (pathNames host arguments named).foldlM survey named

/-- Runs the command on the files of the system and gives its exit code. -/
def execute (arguments : List String) : IO UInt32 := do
  let host ← host
  let before ← surveyAll host arguments
  let (outcome, after) := run host arguments before
  for (place, entry) in changes before after do
    store place entry
  IO.print outcome.out
  IO.eprint outcome.err
  return outcome.status.code.toUInt32

end RasterTensor.CommandLine

def main (arguments : List String) : IO UInt32 := RasterTensor.CommandLine.execute arguments

