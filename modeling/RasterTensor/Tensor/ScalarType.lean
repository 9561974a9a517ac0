import RasterTensor.Binary.Bytes
import RasterTensor.Binary.Word
import RasterTensor.Document.Coerce

/-!
# Types of array elements

The kinds of numbers that arrays hold, in a number of bytes and in either byte order, with the
names that messages and callers use for them.
-/

namespace RasterTensor

open Binary Document Text

inductive ScalarKind where
  | truth
  | signed
  | unsigned
  | real
  | complex
  /-- Values that are no numbers; such elements have no bytes of their own. -/
  | reference
  deriving DecidableEq

/-- `reversed` elements have their most significant byte first. -/
structure ScalarType where
  kind : ScalarKind
  size : Nat
  reversed : Bool
  deriving DecidableEq

namespace ScalarKind

def all : List ScalarKind := [.truth, .signed, .unsigned, .real, .complex, .reference]

def word : ScalarKind → String
  | .truth => "bool"
  | .signed => "int"
  | .unsigned => "uint"
  | .real => "float"
  | .complex => "complex"
  | .reference => "object"

def letter : ScalarKind → Char
  | .truth => 'b'
  | .signed => 'i'
  | .unsigned => 'u'
  | .real => 'f'
  | .complex => 'c'
  | .reference => 'O'

def sizes : ScalarKind → List Nat
  | .truth => [1]
  | .signed | .unsigned => [1, 2, 4, 8]
  | .real => [2, 4, 8]
  | .complex => [8, 16]
  | .reference => [8]

end ScalarKind

namespace ScalarType

def bytes : ScalarType := ⟨.unsigned, 1, false⟩

def native : List ScalarType :=
  ScalarKind.all.flatMap fun kind => kind.sizes.map fun size => ⟨kind, size, false⟩

def longName (t : ScalarType) : String :=
  match t.kind with
  | .truth | .reference => t.kind.word
  | kind => kind.word ++ naturalText (8 * t.size)

def shortName (t : ScalarType) : String := t.kind.letter.toString ++ naturalText t.size

def name (t : ScalarType) : String := if t.reversed then ">" ++ t.shortName else t.longName

/-- The type of a name, long or short, with or without a byte order. -/
def ofName? (s : String) : Option ScalarType :=
  match s.toList with
  | '>' :: rest =>
    (native.find? fun t => t.shortName == .ofList rest).map fun t =>
      { t with reversed := decide (1 < t.size) }
  | '<' :: rest | '=' :: rest | '|' :: rest =>
    native.find? fun t => t.shortName == .ofList rest
  | _ => native.find? fun t => t.longName == s || t.shortName == s

/-- The bytes of one number: an element, or either half of a complex one. -/
def wordSize (t : ScalarType) : Nat := if t.kind = .complex then t.size / 2 else t.size

/-- The place that the byte at a place of an element takes in native order. -/
def nativePlace (t : ScalarType) (i : Nat) : Nat :=
  if t.reversed then i / t.wordSize * t.wordSize + (t.wordSize - 1 - i % t.wordSize) else i

def format (size : Nat) : Format :=
  if size = 2 then .half else if size = 4 then .single else .double

/-- An element as a number of `size` bytes. -/
def word (t : ScalarType) (v : Value) : Except CoercionError Nat := do
  match t.kind with
  | .truth => return v.isTrue.toNat
  | .signed | .unsigned => return wordOfInteger (8 * t.size) (← v.toInteger)
  | .real | .complex => return (format t.wordSize).encode (← v.toFloat).number
  | .reference => return 0

def encode (t : ScalarType) (v : Value) : Except CoercionError (List UInt8) := do
  let plain := littleEndian t.size (← t.word v)
  return (List.range t.size).map fun i => plain.getD (t.nativePlace i) 0

end ScalarType

end RasterTensor
