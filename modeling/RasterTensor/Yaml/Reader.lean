import RasterTensor.Decimal.Numeral
import RasterTensor.Document.Coerce
import RasterTensor.Text.Case
import RasterTensor.Yaml.Implicit
import RasterTensor.Yaml.Tokens

/-!
# Values of documents

The value that a node stands for. Mappings take over the entries of those merged into them,
before their own.
-/

namespace RasterTensor.Yaml

open Binary Document

abbrev Reading (α : Type) := Except Error α

namespace Node

/-- The text of a scalar. A mapping stands for the scalar at its default mark. -/
def scalarText : Node → Reading String
  | .scalar _ text => .ok text
  | .sequence _ _ => .error .malformed
  | .mapping _ pairs => ofPairs pairs
where
  ofPairs : List (Node × Node) → Reading String
    | [] => .error .malformed
    | (key, value) :: rest =>
      if key.tag = standardTag "value" then scalarText value else ofPairs rest

end Node

def digitIn? (base : Nat) (c : Char) : Option Nat :=
  ((Text.digitValue? c).or (Text.hexValue? c)).filter (· < base)

/-- The letter that may stand behind a zero in front of a numeral of a base. -/
def baseLetter (base : Nat) : Char := if base = 2 then 'b' else if base = 8 then 'o' else 'x'

def dropBaseMark (base : Nat) (body : List Char) : List Char :=
  match body with
  | '0' :: letter :: rest => if letter.toLower = baseLetter base then rest else body
  | _ => body

def numeralInBase (base : Nat) (cs : List Char) : Reading Int :=
  let (negative, body) := Decimal.takeSign (Text.trimBy Text.isNumeralBlank cs)
  match (dropBaseMark base body).mapM (digitIn? base) with
  | some (d :: ds) => .ok (signed negative ((d :: ds).foldl (fun n d => base * n + d) 0))
  | _ => .error (.numeral base (.ofList cs))

def decimalNumeral (cs : List Char) : Reading Int :=
  (Value.toInteger (.text (.ofList cs))).mapError .coercion

def ofSixties (groups : List Int) : Int := groups.foldr (fun g n => g + 60 * n) 0

/-- The text without gaps, its sign, and the text behind it. -/
def signedText (s : String) : Reading (Bool × List Char) :=
  match s.toList.filter (· != '_') with
  | [] => .error (.coercion (.indexOutOfRange "str"))
  | '-' :: rest => .ok (true, rest)
  | '+' :: rest => .ok (false, rest)
  | cs => .ok (false, cs)

/-- An integer in one of the bases or in groups of sixty. -/
def unsignedInteger (body : List Char) : Reading Int :=
  match body with
  | ['0'] => .ok 0
  | '0' :: 'b' :: rest => numeralInBase 2 rest
  | '0' :: 'x' :: rest => numeralInBase 16 rest
  | '0' :: _ => numeralInBase 8 body
  | [] => .error (.coercion (.indexOutOfRange "str"))
  | _ =>
    if body.contains ':' then do
      let groups ← (splitAt ':' body).mapM decimalNumeral
      return ofSixties groups.reverse
    else decimalNumeral body

def readInteger (s : String) : Reading Int := do
  let (negative, body) ← signedText s
  let n ← unsignedInteger body
  return if negative then -n else n

def decimalFraction (cs : List Char) : Reading Binary64 :=
  (Value.toFloat (.text (.ofList cs))).mapError .coercion

def negate (x : Binary64) : Binary64 := Binary64.ofInt (-1) * x

/-- A fraction from its groups of sixty, the last group first. The weight of a group is an integer,
and there are groups whose weight is no float. -/
def addSixties (total : Binary64) (weight : Int) : List Binary64 → Reading Binary64
  | [] => .ok total
  | g :: groups => do
    let factor ← (Value.toFloat (.int weight)).mapError .coercion
    addSixties (total + g * factor) (weight * 60) groups

/-- A decimal fraction, possibly in groups of sixty, or infinity. -/
def unsignedFloat (body : List Char) : Reading Binary64 :=
  if body = ".inf".toList then .ok (.ofNumber (.infinite false))
  else if body.contains ':' then do
    let groups ← (splitAt ':' body).mapM decimalFraction
    addSixties (.ofInt 0) 1 groups.reverse
  else decimalFraction body

def readFloat (s : String) : Reading Binary64 := do
  let (negative, body) ← signedText (.ofList (s.toList.map Char.toLower))
  if body = ".nan".toList then return .ofNumber .nan
  let x ← unsignedFloat body
  return if negative then negate x else x

def natOf (digits : List Char) : Nat := digits.foldl (fun n c => n * 10 + (c.toNat - 48)) 0

/-- A fraction of a second as a number of millionths; further digits are dropped. -/
def millionths (fraction : List Char) : Nat :=
  natOf (fraction.take 6 ++ List.replicate (6 - fraction.length) '0')

/-- A date, or a date with a time. A line end behind it is of no account. -/
def readMoment (s : String) : Reading Value := do
  let some m := MomentText.ofChars? (dropLineEnd s.toList) | throw .noMoment
  let date : Date := ⟨natOf m.year, natOf m.month, natOf m.day⟩
  match m.time with
  | none => return .date (← date.check.mapError .moment)
  | some (hour, minute, second, fraction) =>
    let offset : Option Int := m.zone.map fun z =>
      match z with
      | none => 0
      | some (west, hours, minutes) => signed west (3600 * natOf hours + 60 * natOf minutes)
    let moment : Moment :=
      ⟨date, natOf hour, natOf minute, natOf second, millionths fraction, offset⟩
    return .moment (← moment.check.mapError .moment)

/-- The value of a character in a text that stands for bytes. -/
def sixBits? (c : Char) : Option Nat :=
  if 'A' ≤ c ∧ c ≤ 'Z' then some (c.toNat - 65)
  else if 'a' ≤ c ∧ c ≤ 'z' then some (c.toNat - 71)
  else if c.isDigit then some (c.toNat + 4)
  else if c = '+' then some 62
  else if c = '/' then some 63
  else none

/-- The bytes that groups of four characters stand for. Other characters are skipped, and two of
padding may end the text early. -/
def bytesOfText : (held : List Nat) → (padding : Nat) → (out : List UInt8) → List Char →
    Reading (List UInt8)
  | held, _, out, [] => if held.isEmpty then .ok out.reverse else .error .malformed
  | held, padding, out, c :: rest =>
    if c = '=' then
      match held with
      | [b, a] =>
        if padding = 1 then .ok (.ofNat (a * 4 + b / 16) :: out).reverse
        else bytesOfText held 1 out rest
      | [d, b, a] =>
        .ok (.ofNat ((b % 16) * 16 + d / 4) :: .ofNat (a * 4 + b / 16) :: out).reverse
      | _ => bytesOfText held padding out rest
    else
      match sixBits? c, held with
      | none, _ => bytesOfText held padding out rest
      | some e, [d, b, a] =>
        bytesOfText [] 0
          (.ofNat ((d % 4) * 64 + e) :: .ofNat ((b % 16) * 16 + d / 4) ::
            .ofNat (a * 4 + b / 16) :: out) rest
      | some e, held => bytesOfText (e :: held) 0 out rest

def readBytes (s : String) : Reading Value :=
  if s.toList.any fun c => 0x7F < c.toNat then .error .malformed
  else (bytesOfText [] 0 [] s.toList).map .bytes

def readTruth (s : String) : Reading Value :=
  let word := String.ofList (s.toList.flatMap Text.lowerChar)
  match truthWords.lookup word with
  | some b => .ok (.bool b)
  | none => .error (.coercion (.missingKey (Text.quoted word)))

def readScalar (tag text : String) : Reading Value :=
  if tag = standardTag "str" then .ok (.text text)
  else if tag = standardTag "null" then .ok .null
  else if tag = standardTag "bool" then readTruth text
  else if tag = standardTag "int" then (readInteger text).map .int
  else if tag = standardTag "float" then (readFloat text).map .float
  else if tag = standardTag "timestamp" then readMoment text
  else if tag = standardTag "binary" then readBytes text
  else .error .malformed

mutual

/-- The pairs of a mapping with those merged into it, which come before its own. Where `several`
allows it, a sequence brings the pairs of its mappings. -/
def mergedPairs : (several : Bool) → Node → Reading (List (Node × Node))
  | _, .mapping _ pairs => do
    let (merged, own) ← splitMerged pairs
    return merged ++ own
  | true, .sequence _ items => mergeAll items
  | _, _ => .error .malformed

/-- The pairs that are merged into a mapping, and its own. -/
def splitMerged : List (Node × Node) → Reading (List (Node × Node) × List (Node × Node))
  | [] => .ok ([], [])
  | (key, value) :: rest =>
    if key.tag = standardTag "merge" then do
      let here ← mergedPairs true value
      let (merged, own) ← splitMerged rest
      return (here ++ merged, own)
    else do
      let (merged, own) ← splitMerged rest
      return (merged, (key, value) :: own)

/-- The pairs of several mappings, the last of which come first. -/
def mergeAll : List Node → Reading (List (Node × Node))
  | [] => .ok []
  | item :: rest => do
    let here ← mergedPairs false item
    return (← mergeAll rest) ++ here

end

def keyNode : Node → Node
  | .scalar tag text =>
    if tag = standardTag "value" then .scalar (standardTag "str") text else .scalar tag text
  | n => n

/-- A pair of a sequence of pairs: a mapping with a single one. -/
def singlePair : Node → Reading (Node × Node)
  | .mapping _ [pair] => .ok pair
  | _ => .error .malformed

/-- The value of a node of at most `depth` levels. -/
def valueOf : (depth : Nat) → Node → Reading Value
  | 0, _ => .error .nested
  | depth + 1, n =>
    let entries (pairs : List (Node × Node)) : Reading Entries := do
      let values ← pairs.mapM fun (key, value) => do
        let k ← valueOf depth (keyNode key)
        if !k.isKey then throw Error.malformed
        return (k, ← valueOf depth value)
      return Entries.ofList values
    let pairsOf (items : List Node) : Reading Value := do
      let values ← items.mapM fun item => do
        let (key, value) ← singlePair item
        return Value.tuple [← valueOf depth key, ← valueOf depth value]
      return .list values
    match n with
    | .sequence tag items =>
      if tag = standardTag "seq" then return .list (← items.mapM (valueOf depth))
      else if tag = standardTag "omap" ∨ tag = standardTag "pairs" then pairsOf items
      else .error .malformed
    | .mapping tag pairs =>
      if tag = standardTag "map" then do return .mapping (← entries (← mergedPairs false n))
      else if tag = standardTag "set" then do
        return .set ((← entries (← mergedPairs false n)).map Prod.fst)
      else if tag = standardTag "seq" ∨ tag = standardTag "omap" ∨ tag = standardTag "pairs" then
        .error .malformed
      else do readScalar tag (← Node.scalarText (.mapping tag pairs))
    | .scalar tag text => readScalar tag text

def collectionTags : List String := ["seq", "omap", "pairs", "map", "set"].map standardTag

/-- Reads a scalar. A collection is left for the next level, unless its tag is of another kind. -/
def visit : Node → Reading (List Node)
  | .scalar tag text => do
    let _ ← readScalar tag text
    return []
  | .sequence tag items =>
    if collectionTags.contains tag then return [.sequence tag items] else .error .malformed
  | .mapping tag pairs => do
    if collectionTags.contains tag then return [.mapping tag pairs]
    let _ ← readScalar tag (← Node.scalarText (.mapping tag pairs))
    return []

def visitAll (nodes : List Node) : Reading (List Node) := return (← nodes.mapM visit).flatten

/-- Visits the members of a collection in order. A collection is no key, whatever is in it. -/
def visitMembers : Node → Reading (List Node)
  | .scalar _ _ => return []
  | .sequence tag items => do
    if tag = standardTag "seq" then return ← visitAll items
    if tag = standardTag "map" ∨ tag = standardTag "set" then throw .malformed
    let parts ← items.mapM fun item => do
      let (key, value) ← singlePair item
      visitAll [key, value]
    return parts.flatten
  | .mapping tag pairs => do
    if tag ≠ standardTag "map" ∧ tag ≠ standardTag "set" then throw .malformed
    let parts ← (← mergedPairs false (.mapping tag pairs)).mapM fun (key, value) => do
      if !(← visit (keyNode key)).isEmpty then throw Error.malformed
      visit value
    return parts.flatten

/-- Finds the first fault of a document. The collections of one level are gone through before those
that they hold, so of two faults the one nearer to the root counts. -/
def visitLevels : (levels : Nat) → List Node → Reading Unit
  | 0, _ => return ()
  | n + 1, nodes => do visitLevels n (← nodes.mapM visitMembers).flatten

/-- The value of a text, which holds one document at most, with collections nested at most `depth`
deep. -/
def read (depth : Nat) (text : List Char) : Reading Value := do
  match ← Node.ofTokens depth implicitTag (← tokens text) with
  | none => return .null
  | some root =>
    visitLevels root.height (← visit root)
    valueOf root.height root

end RasterTensor.Yaml
