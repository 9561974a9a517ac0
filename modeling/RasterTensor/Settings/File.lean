import RasterTensor.Failure
import RasterTensor.Files.Tree
import RasterTensor.Json.Reader
import RasterTensor.Text.Case
import RasterTensor.Yaml.Reader

/-!
# Settings files

A settings file holds one mapping, in one of two formats that its suffix tells apart. What the
entries mean is not looked at here. Each format has a reader, which says itself what is none of its
format; there may be no reader for the second.
-/

namespace RasterTensor

open Document Files Text

inductive FileFormat where
  | json
  | yaml
  deriving DecidableEq

namespace FileFormat

def suffixes : List (String × FileFormat) := [(".json", .json), (".yml", .yaml), (".yaml", .yaml)]

/-- The format that a suffix stands for, in any letter case. -/
def ofSuffix? (suffix : String) : Option FileFormat := suffixes.lookup (lower suffix)

def name : FileFormat → String
  | .json => "JSON"
  | .yaml => "YAML"

end FileFormat

namespace SettingsFile

/-- What the text of a file comes to: nothing, a mapping, or a value of another kind. -/
inductive Found (α : Type) where
  | nothing
  | mapping (entries : α)
  | other (kind : String)

/-- Why a reader finds nothing: the text is not of the reader's format, or the reader fails in
another way. -/
inductive ReaderFault where
  | malformed (words : Option String)
  | raised (cause : Failure)

abbrev Reader (α : Type) := List Char → Except ReaderFault (Found α)

structure Readers (α : Type) where
  json : Reader α
  yaml : Option (Reader α)

def Readers.of? {α : Type} (readers : Readers α) : FileFormat → Option (Reader α)
  | .json => some readers.json
  | .yaml => readers.yaml

/-- Only what is not of the format at all is refused as settings. -/
def ReaderFault.failure (format : FileFormat) (source : String) : ReaderFault → Failure
  | .malformed words => .malformedFile format.name source words
  | .raised cause => cause

def readText (t : Tree) (path : PathName) : Except Failure (List Char) := do
  match decodeUtf8 (← t.read path) with
  | .ok text => return unifyLineEnds text
  | .error e => throw (.undecodable e)

/-- The entries of a settings file. Without a reader for the second format, its files are
refused once their text was read. -/
def load {α : Type} [EmptyCollection α] (readers : Readers α) (t : Tree) (path : PathName) :
    Except Failure α := do
  let shown := path.text
  let suffix := String.ofList path.suffix
  match FileFormat.ofSuffix? suffix with
  | none => throw (.unknownExtension suffix shown)
  | some format =>
    let text ← readText t path
    match readers.of? format with
    | none => throw (.noYamlReader shown)
    | some reader =>
      match reader text with
      | .error fault => throw (fault.failure format shown)
      | .ok .nothing => return ∅
      | .ok (.mapping entries) => return entries
      | .ok (.other kind) => throw (.settingsKind shown kind)

def found : Value → Found Entries
  | .null => .nothing
  | .mapping entries => .mapping entries
  | v => .other v.kind

def jsonFault (text : List Char) : Json.ReadError → ReaderFault
  | .malformed fault position => .malformed (some (fault.message text position))
  | .integerTooLong digits => .raised (.coercion (.integerTooLong digits))
  | .nestedArray => .raised (.nestedJson "array")
  | .nestedObject => .raised (.nestedJson "object")

def jsonReader (convention : Json.Convention) : Reader Entries := fun text =>
  match Json.read convention text with
  | .ok v => .ok (found v)
  | .error e => .error (jsonFault text e)

/-- A document with values that are well formed and cannot be built fails in their way. -/
def yamlFault : Yaml.Error → ReaderFault
  | .malformed => .malformed none
  | .nested => .raised .nestedYaml
  | .character number => .raised (.character number)
  | .coercion e => .raised (.coercion e)
  | .numeral base text => .raised (.malformedNumeral base text)
  | .moment fault => .raised (.moment fault)
  | .noMoment => .raised .noMoment
  | .endless => .raised .endlessYaml

def yamlReader (depth : Nat) : Reader Entries := fun text =>
  match Yaml.read depth text with
  | .ok v => .ok (found v)
  | .error e => .error (yamlFault e)

end SettingsFile

end RasterTensor
