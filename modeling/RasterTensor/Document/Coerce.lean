import RasterTensor.Decimal.Numeral
import RasterTensor.Document.Render

/-!
# Reading a value as a number or a sequence

Conversions of a supplied value to a float, an integer, a truth value, a sequence, the member of
a sequence, or a mapping, each with the reasons for which it can fail.
-/

namespace RasterTensor.Document

open Binary Text

inductive CoercionError where
  | notFloat (kind : String)
  | malformedFloat (shown : String)
  | tooLargeForFloat
  | notInteger (kind : String)
  | malformedInteger (shown : String)
  | integerTooLong (digits : Nat)
  | nanToInteger
  | infinityToInteger
  | notIterable (kind : String)
  | notIndexable (kind : String)
  | indexOutOfRange (kind : String)
  | missingKey (shown : String)
  | notPair (position : Nat)
  | pairLength (position length : Nat)
  | notKey (kind : String)
  deriving DecidableEq

namespace CoercionError

/-- The length at which the text of a malformed numeral is cut. -/
def numeralCut : Nat := 200

def message : CoercionError → String
  | .notFloat kind =>
    "float() argument must be a string or a real number, not '" ++ kind ++ "'"
  | .malformedFloat shown => "could not convert string to float: " ++ shown
  | .tooLargeForFloat => "int too large to convert to float"
  | .notInteger kind =>
    "int() argument must be a string, a bytes-like object or a real number, not '" ++ kind ++ "'"
  | .malformedInteger shown =>
    "invalid literal for int() with base 10: " ++ String.ofList (shown.toList.take numeralCut)
  | .integerTooLong digits =>
    "Exceeds the limit (" ++ naturalText Decimal.maxIntegerDigits ++
      " digits) for integer string conversion: value has " ++ naturalText digits ++
      " digits; use sys.set_int_max_str_digits() to increase the limit"
  | .nanToInteger => "cannot convert float NaN to integer"
  | .infinityToInteger => "cannot convert float infinity to integer"
  | .notIterable kind => "'" ++ kind ++ "' object is not iterable"
  | .notIndexable kind => "'" ++ kind ++ "' object is not subscriptable"
  | .indexOutOfRange kind =>
    if kind = "bytes" then "index out of range"
    else (if kind = "str" then "string" else kind) ++ " index out of range"
  | .missingKey shown => shown
  | .notPair position =>
    "cannot convert dictionary update sequence element #" ++ naturalText position ++
      " to a sequence"
  | .pairLength position length =>
    "dictionary update sequence element #" ++ naturalText position ++ " has length " ++
      naturalText length ++ "; 2 is required"
  | .notKey kind => "unhashable type: " ++ quoted kind

end CoercionError

/-- Bytes as the characters of the same numbers. -/
def latinText (content : List UInt8) : List Char := content.map fun b => Char.ofNat b.toNat

namespace Value

/-- The nearest float. An integer past the largest float is refused. -/
def toFloat (v : Value) : Except CoercionError Binary64 :=
  match v with
  | .bool b => .ok (.ofNat b.toNat)
  | .int i =>
    let x := Binary64.ofInt i
    if x.isFinite then .ok x else .error .tooLargeForFloat
  | .float x => .ok x
  | .text s => ((Decimal.number? s.toList).map .ok).getD (.error (.malformedFloat (quoted s)))
  | .bytes content =>
    ((Decimal.number? (latinText content)).map .ok).getD
      (.error (.malformedFloat (quotedBytes content)))
  | v => .error (.notFloat v.kind)

/-- The outcome of reading an integer numeral, which a refusal shows. -/
def ofNumeral (shown : String) : Except Decimal.IntegerFault Int → Except CoercionError Int
  | .ok i => .ok i
  | .error .malformed => .error (.malformedInteger shown)
  | .error (.tooLong digits) => .error (.integerTooLong digits)

/-- The integer that a value denotes; the fraction of a float is dropped. -/
def toInteger (v : Value) : Except CoercionError Int :=
  match v with
  | .bool b => .ok b.toNat
  | .int i => .ok i
  | .float x =>
    match x.number.truncate? with
    | some i => .ok i
    | none => .error (if x.isNan then .nanToInteger else .infinityToInteger)
  | .text s => ofNumeral (quoted s) (Decimal.integer s.toList)
  | .bytes content => ofNumeral (quotedBytes content) (Decimal.asciiInteger (latinText content))
  | v => .error (.notInteger v.kind)

/-- Whether a value counts as true: zero, nothing and empty values do not. -/
def isTrue : Value → Bool
  | .null => false
  | .bool b => b
  | .int i => i != 0
  | .float x => !x.isZero
  | .text s => !s.isEmpty
  | .bytes content => !content.isEmpty
  | .date _ | .moment _ | .choice _ => true
  | .list items | .tuple items | .set items => !items.isEmpty
  | .mapping entries => !entries.isEmpty

/-- The members of a value: the characters of a text, the keys of a mapping. -/
def members : Value → Except CoercionError (List Value)
  | .text s => .ok (s.toList.map fun c => .text (.singleton c))
  | .bytes content => .ok (content.map fun b => .int b.toNat)
  | .list items | .tuple items | .set items => .ok items
  | .mapping entries => .ok (entries.map Prod.fst)
  | v => .error (.notIterable v.kind)

/-- The member at a position; of a mapping, the value at that integer key. -/
def member (v : Value) (i : Nat) : Except CoercionError Value :=
  let pick (items : List Value) : Except CoercionError Value :=
    match items[i]? with
    | some item => .ok item
    | none => .error (.indexOutOfRange v.kind)
  match v with
  | .text s => pick (s.toList.map fun c => .text (.singleton c))
  | .bytes content =>
    match content[i]? with
    | some b => .ok (.int b.toNat)
    | none => .error (.indexOutOfRange v.kind)
  | .list items | .tuple items => pick items
  | .mapping entries =>
    match Entries.find? (.int i) entries with
    | some item => .ok item
    | none => .error (.missingKey (naturalText i))
  | v => .error (.notIndexable v.kind)

/-- The entry that a sequence of two members gives. -/
def toEntry (position : Nat) (v : Value) : Except CoercionError (Value × Value) :=
  match v.members with
  | .error _ => .error (.notPair position)
  | .ok [key, value] =>
    match key.obstacle? with
    | none => .ok (key, value)
    | some part => .error (.notKey part.kind)
  | .ok items => .error (.pairLength position items.length)

/-- The entries of a mapping, or those that the pairs in a sequence give. -/
def toEntries : Value → Except CoercionError Entries
  | .mapping entries => .ok entries
  | v => do
    let items ← v.members
    let pairs ← items.zipIdx.mapM fun (item, position) => toEntry position item
    return .ofList pairs

end Value

end RasterTensor.Document
