import RasterTensor.Decimal.Numeral
import RasterTensor.Document.Value
import RasterTensor.Text.Digit

/-!
# Reading JSON

A text is read from left to right with the position of the next character, so that a refusal
can name the place. Beyond the standard the words `NaN`, `Infinity` and `-Infinity` are
numbers, and of a repeated key the last value counts.
-/

namespace RasterTensor.Json

open Document Text

/-- What the text should have had at the place of a refusal, or what is wrong there. -/
inductive SyntaxFault where
  | expectingValue
  | expectingName
  | expectingColon
  | expectingComma
  | extraData
  | unterminatedString
  | controlCharacter
  | invalidEscape
  | invalidUnicodeEscape
  | byteOrderMark
  deriving DecidableEq

inductive ReadError where
  | malformed (fault : SyntaxFault) (position : Nat)
  /-- An integer has more digits than one may have. -/
  | integerTooLong (digits : Nat)
  /-- Arrays or objects are nested too deeply. -/
  | nestedArray
  | nestedObject
  deriving DecidableEq

/-- What is left to the place that reads: how deep arrays and objects may be nested there, and
which character stands for a surrogate without its partner, for which a text has none of its
own. -/
structure Convention where
  depth : Nat
  lone : Nat → Char

structure Cursor where
  position : Nat
  rest : List Char

def Cursor.advance (c : Cursor) (n : Nat) : Cursor := ⟨c.position + n, c.rest.drop n⟩

/-- What reading yields: a part of a text comes with the place behind it. -/
abbrev Reading := Except ReadError

def fail {α : Type} (fault : SyntaxFault) (position : Nat) : Reading α :=
  .error (.malformed fault position)

def isSpace (c : Char) : Bool := c == ' ' || c == '\t' || c == '\n' || c == '\r'

def skipSpace (c : Cursor) : Cursor := c.advance (c.rest.takeWhile isSpace).length

def codeUnit? (a b c d : Char) : Option Nat := do
  return (((← hexValue? a) * 16 + (← hexValue? b)) * 16 + (← hexValue? c)) * 16 + (← hexValue? d)

def isHighSurrogate (n : Nat) : Bool := 0xD800 ≤ n && n < 0xDC00
def isLowSurrogate (n : Nat) : Bool := 0xDC00 ≤ n && n < 0xE000

/-- The character of a pair of surrogates. -/
def joinSurrogates (high low : Nat) : Char :=
  .ofNat (0x10000 + (high - 0xD800) * 0x400 + (low - 0xDC00))

/-- The character of a code unit that stands alone. -/
def unitChar (lone : Nat → Char) (n : Nat) : Char :=
  if isHighSurrogate n || isLowSurrogate n then lone n else .ofNat n

/-- The character that a backslash and the given letter stand for. -/
def escaped? (c : Char) : Option Char :=
  match c with
  | '"' | '\\' | '/' => some c
  | 'b' => some '\x08'
  | 'f' => some '\x0c'
  | 'n' => some '\n'
  | 'r' => some '\r'
  | 't' => some '\t'
  | _ => none

/-- The code unit of an escape at the head of a text, where more text follows the escape. The
inner result is absent when the digits are malformed. -/
def escapedUnit? : List Char → Option (Option Nat)
  | '\\' :: 'u' :: a :: b :: c :: d :: _ :: _ => some (codeUnit? a b c d)
  | _ => none

/-- The rest of a string whose opening quote is at `start`. `out` holds the characters so far,
reversed, and `position` is that of the next character. -/
def readString (lone : Nat → Char) (start position : Nat) (out : List Char) :
    List Char → Reading (String × Cursor)
  | [] => fail .unterminatedString start
  | '"' :: rest => .ok (.ofList out.reverse, ⟨position + 1, rest⟩)
  | '\\' :: 'u' :: a :: b :: c :: d :: next :: rest =>
    match codeUnit? a b c d with
    | none => fail .invalidUnicodeEscape (position + 1)
    | some n =>
      match if isHighSurrogate n then escapedUnit? (next :: rest) else none with
      | some none => fail .invalidUnicodeEscape (position + 7)
      | some (some m) =>
        if isLowSurrogate m then
          readString lone start (position + 12) (joinSurrogates n m :: out) (rest.drop 5)
        else readString lone start (position + 6) (unitChar lone n :: out) (next :: rest)
      | none => readString lone start (position + 6) (unitChar lone n :: out) (next :: rest)
  | '\\' :: 'u' :: _ => fail .invalidUnicodeEscape (position + 1)
  | '\\' :: c :: rest =>
    match escaped? c with
    | some e => readString lone start (position + 2) (e :: out) rest
    | none => fail .invalidEscape position
  | '\\' :: [] => fail .unterminatedString start
  | c :: rest =>
    if c.val < 0x20 then fail .controlCharacter position
    else readString lone start (position + 1) (c :: out) rest
  termination_by cs => cs.length
  decreasing_by all_goals simp only [List.length_drop, List.length_cons]; omega

/-- The digits of an integer part: a zero alone, or digits that do not start with one. -/
def wholeDigits (cs : List Char) : List Char :=
  match cs with
  | '0' :: _ => ['0']
  | _ => cs.takeWhile Char.isDigit

/-- A point and digits, where both are there. -/
def fractionDigits (cs : List Char) : List Char :=
  match cs with
  | '.' :: rest =>
    let digits := rest.takeWhile Char.isDigit
    if digits.isEmpty then [] else '.' :: digits
  | _ => []

/-- An exponent mark, a sign if there is one, and digits, where mark and digits are there. -/
def exponentDigits (cs : List Char) : List Char :=
  match cs with
  | mark :: rest =>
    if mark = 'e' ∨ mark = 'E' then
      let sign := rest.takeWhile fun c => c == '+' || c == '-'
      let sign := sign.take 1
      let digits := (rest.drop sign.length).takeWhile Char.isDigit
      if digits.isEmpty then [] else mark :: (sign ++ digits)
    else []
  | [] => []

def readNumber (c : Cursor) : Reading (Value × Cursor) :=
  let (negative, body) := match c.rest with
    | '-' :: rest => (true, rest)
    | cs => (false, cs)
  let whole := wholeDigits body
  if whole.isEmpty then fail .expectingValue c.position
  else
    let afterWhole := body.drop whole.length
    let fraction := fractionDigits afterWhole
    let exponent := exponentDigits (afterWhole.drop fraction.length)
    let numeral := whole ++ fraction ++ exponent
    let next := c.advance (numeral.length + negative.toNat)
    if fraction.isEmpty && exponent.isEmpty then
      if Decimal.maxIntegerDigits < whole.length then .error (.integerTooLong whole.length)
      else
        let n := Decimal.ofDigits (whole.map fun d => d.toNat - 48)
        .ok (.int (Binary.signed negative n), next)
    else
      match Decimal.readFraction? negative numeral with
      | some x => .ok (.float x, next)
      | none => fail .expectingValue c.position

def constants : List (String × Value) :=
  [("null", .null), ("true", .bool true), ("false", .bool false),
    ("NaN", .float (.ofNumber .nan)), ("Infinity", .float (.ofNumber (.infinite false))),
    ("-Infinity", .float (.ofNumber (.infinite true)))]

def readConstant? (c : Cursor) : Option (Value × Cursor) :=
  constants.findSome? fun (word, v) =>
    if word.toList.isPrefixOf c.rest then some (v, c.advance word.length) else none

inductive Follow where
  | more (next : Cursor)
  | closed (next : Cursor)

/-- A comma, with the place of the next member, or the closing mark. -/
def readFollow (close : Char) (c : Cursor) : Reading Follow :=
  let c := skipSpace c
  match c.rest with
  | mark :: _ =>
    if mark = close then .ok (.closed (c.advance 1))
    else if mark = ',' then .ok (.more (skipSpace (c.advance 1)))
    else fail .expectingComma c.position
  | [] => fail .expectingComma c.position

/-- Members up to the closing mark. `fuel` bounds their number. -/
def readMembers {α : Type} (close : Char) (member : Cursor → Reading (α × Cursor)) :
    (fuel : Nat) → (out : List α) → Cursor → Reading (List α × Cursor)
  | 0, _, c => fail .expectingComma c.position
  | fuel + 1, out, c => do
    let (v, next) ← member c
    match ← readFollow close next with
    | .closed after => return ((v :: out).reverse, after)
    | .more after => readMembers close member fuel (v :: out) after

def readBody {α : Type} (close : Char) (member : Cursor → Reading (α × Cursor)) (c : Cursor) :
    Reading (List α × Cursor) :=
  let c := skipSpace c
  if c.rest.head? = some close then .ok ([], c.advance 1)
  else readMembers close member (c.rest.length + 1) [] c

def readEntry (lone : Nat → Char) (value : Cursor → Reading (Value × Cursor)) (c : Cursor) :
    Reading ((Value × Value) × Cursor) := do
  match c.rest with
  | '"' :: rest =>
    let (name, next) ← readString lone c.position (c.position + 1) [] rest
    let next := skipSpace next
    match next.rest with
    | ':' :: _ =>
      let (v, after) ← value (skipSpace (next.advance 1))
      return ((.text name, v), after)
    | _ => fail .expectingColon next.position
  | _ => fail .expectingName c.position

/-- A value at the cursor, in which arrays and objects are nested at most `depth` deep. -/
def readValue (lone : Nat → Char) : (depth : Nat) → Cursor → Reading (Value × Cursor)
  | 0, c =>
    match c.rest with
    | '[' :: _ => .error .nestedArray
    | '\x7b' :: _ => .error .nestedObject
    | _ => readScalar c
  | depth + 1, c =>
    match c.rest with
    | '[' :: _ => do
      let (items, next) ← readBody ']' (readValue lone depth) (c.advance 1)
      return (.list items, next)
    | '\x7b' :: _ => do
      let (entries, next) ← readBody '\x7d' (readEntry lone (readValue lone depth)) (c.advance 1)
      return (.mapping (Entries.ofList entries), next)
    | _ => readScalar c
where
  readScalar (c : Cursor) : Reading (Value × Cursor) :=
    match c.rest with
    | '"' :: rest => do
      let (s, next) ← readString lone c.position (c.position + 1) [] rest
      return (.text s, next)
    | _ =>
      match readConstant? c with
      | some result => .ok result
      | none => readNumber c

def read (convention : Convention) (cs : List Char) : Reading Value := do
  if cs.head? = some '\uFEFF' then fail .byteOrderMark 0
  else
    let (v, next) ← readValue convention.lone convention.depth (skipSpace ⟨0, cs⟩)
    let next := skipSpace next
    if next.rest.isEmpty then return v else fail .extraData next.position

def SyntaxFault.words : SyntaxFault → String
  | .expectingValue => "Expecting value"
  | .expectingName => "Expecting property name enclosed in double quotes"
  | .expectingColon => "Expecting ':' delimiter"
  | .expectingComma => "Expecting ',' delimiter"
  | .extraData => "Extra data"
  | .unterminatedString => "Unterminated string starting at"
  | .controlCharacter => "Invalid control character at"
  | .invalidEscape => "Invalid \\escape"
  | .invalidUnicodeEscape => "Invalid \\uXXXX escape"
  | .byteOrderMark => "Unexpected UTF-8 BOM (decode using utf-8-sig)"

/-- The line and the column of a position, both counted from one. -/
def lineColumn (cs : List Char) (position : Nat) : Nat × Nat :=
  let before := cs.take position
  (before.count '\n' + 1, (before.reverse.takeWhile (· ≠ '\n')).length + 1)

/-- A refusal with the place in the text it refers to. -/
def SyntaxFault.message (fault : SyntaxFault) (cs : List Char) (position : Nat) : String :=
  let (line, column) := lineColumn cs position
  fault.words ++ ": line " ++ naturalText line ++ " column " ++ naturalText column ++
    " (char " ++ naturalText position ++ ")"

end RasterTensor.Json
