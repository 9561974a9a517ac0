import RasterTensor.Binary.Format
import RasterTensor.Text.Blank
import RasterTensor.Text.Digit

/-!
# Numerals

Integers and decimal fractions as a user writes them: digits of any script, single underscores
between digits, white space around the whole.
-/

namespace RasterTensor.Decimal

open Binary Text

/-- The most digits of an integer that is read from text or written as text. -/
def maxIntegerDigits : Nat := 4300

/-- The least number with more digits than that. -/
@[irreducible]
def integerLimit : Nat := Nat.pow 10 maxIntegerDigits

inductive IntegerFault where
  | malformed
  /-- The numeral has more digits than `maxIntegerDigits`. -/
  | tooLong (digits : Nat)
  deriving DecidableEq

/-- A sign, if there is one, and the rest. -/
def takeSign : List Char → Bool × List Char
  | '-' :: rest => (true, rest)
  | '+' :: rest => (false, rest)
  | cs => (false, cs)

/-- The digits at the head of a text, with single underscores between them left out, and the
rest. There is no result when an underscore stands elsewhere. `after` tells whether a digit
stands just before. -/
def takeDigits (digit : Char → Option Nat) :
    (after : Bool) → (out : List Nat) → List Char → Option (List Nat × List Char)
  | _, out, [] => some (out.reverse, [])
  | after, out, c :: rest =>
    match digit c with
    | some d => takeDigits digit true (d :: out) rest
    | none =>
      if c = '_' then
        match after, rest with
        | true, next :: _ => if (digit next).isSome then takeDigits digit false out rest else none
        | _, _ => none
      else some (out.reverse, c :: rest)

def ofDigits (digits : List Nat) : Nat := digits.foldl (fun n d => n * 10 + d) 0

/-- An integer numeral whose digits and surrounding blanks are of the given kinds. -/
def readInteger (digit : Char → Option Nat) (blank : Char → Bool) (cs : List Char) :
    Except IntegerFault Int :=
  let (negative, body) := takeSign (trimBy blank cs)
  match takeDigits digit false [] body with
  | none => .error .malformed
  | some (digits, rest) =>
    if maxIntegerDigits < digits.length then .error (.tooLong digits.length)
    else if digits.isEmpty || !rest.isEmpty then .error .malformed
    else .ok (signed negative (ofDigits digits))

def integer (cs : List Char) : Except IntegerFault Int :=
  readInteger digitValue? isNumeralBlank cs

def asciiInteger (cs : List Char) : Except IntegerFault Int :=
  readInteger asciiDigit? isAsciiBlank cs

/-- The number of 64 bits nearest to `± digits * 10 ^ exponent`. Exponents that are far out of
range are not raised to a power. -/
def nearest (negative : Bool) (digits : List Nat) (exponent : Int) : Binary64 :=
  let significant := digits.dropWhile (· == 0)
  let n := ofDigits significant
  let size := exponent + significant.length
  .ofNumber <|
    if n = 0 ∨ size < -400 then .finite negative 0 0
    else if 400 < size then .infinite negative
    else Format.double.quotient negative (n * Nat.pow 10 exponent.toNat)
      (Nat.pow 10 (-exponent).toNat)

def spanDigits (cs : List Char) : List Nat × List Char :=
  ((cs.takeWhile Char.isDigit).map fun c => c.toNat - 48, cs.dropWhile Char.isDigit)

/-- The exponent part that ends a decimal fraction; an absent one is zero. -/
def readExponent? : List Char → Option Int
  | [] => some 0
  | c :: rest =>
    if c = 'e' ∨ c = 'E' then
      let (negative, body) := takeSign rest
      let (digits, after) := spanDigits body
      if digits.isEmpty || !after.isEmpty then none else some (signed negative (ofDigits digits))
    else none

/-- An unsigned decimal fraction in ASCII: digits before or after the point, or both. -/
def readFraction? (negative : Bool) (cs : List Char) : Option Binary64 :=
  let (whole, rest) := spanDigits cs
  let (fraction, rest) := match rest with
    | '.' :: tail => spanDigits tail
    | _ => ([], rest)
  if whole.isEmpty && fraction.isEmpty then none
  else
    (readExponent? rest).map fun exponent =>
      nearest negative (whole ++ fraction) (exponent - fraction.length)

/-- The text with each digit of another script replaced by the ASCII digit. -/
def asciiDigits (cs : List Char) : List Char :=
  cs.map fun c =>
    match digitValue? c with
    | some d => Char.ofNat (48 + d)
    | none => c

/-- The text without underscores, when each of them stands between two digits. `after` tells
whether a digit stands just before. -/
def dropUnderscores? : (after : Bool) → List Char → Option (List Char)
  | _, [] => some []
  | after, '_' :: rest =>
    match after, rest with
    | true, next :: _ => if next.isDigit then dropUnderscores? false rest else none
    | _, _ => none
  | _, c :: rest => (dropUnderscores? c.isDigit rest).map (c :: ·)

/-- A number in digits of any script, or a word for infinity or for no number. -/
def number? (cs : List Char) : Option Binary64 := do
  let plain ← dropUnderscores? false (asciiDigits (trimBy isNumeralBlank cs))
  let (negative, body) := takeSign plain
  let word := body.map Char.toLower
  if word = "inf".toList ∨ word = "infinity".toList then
    return .ofNumber (.infinite negative)
  if word = "nan".toList then return .ofNumber .nan
  readFraction? negative body

end RasterTensor.Decimal
