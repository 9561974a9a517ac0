import RasterTensor.Text.Digit
import RasterTensor.Yaml.Node

/-!
# Plain scalars

The tag that a plain scalar has by its text alone: truth values, numbers in several bases and in
groups of sixty, dates and times, the empty value, and the marks of merged and of default values.
-/

namespace RasterTensor.Yaml

def truthWords : List (String × Bool) :=
  [("yes", true), ("no", false), ("true", true), ("false", false), ("on", true), ("off", false)]

/-- A word in lower case, capitalized, or in upper case. -/
def spellings (word : String) : List String := [word, word.capitalize, word.toUpper]

def isTruth (s : String) : Bool := truthWords.any fun w => (spellings w.1).contains s

def isNull (s : String) : Bool := s == "" || s == "~" || (spellings "null").contains s

def isDigitOrGap (c : Char) : Bool := c.isDigit || c == '_'

def dropSign : List Char → List Char
  | '+' :: rest | '-' :: rest => rest
  | cs => cs

def splitAt (mark : Char) : List Char → List (List Char)
  | [] => [[]]
  | c :: rest =>
    if c = mark then [] :: splitAt mark rest
    else
      match splitAt mark rest with
      | [] => [[c]]
      | part :: parts => (c :: part) :: parts

def isSixtieth : List Char → Bool
  | [a] => a.isDigit
  | [a, b] => '0' ≤ a && a ≤ '5' && b.isDigit
  | _ => false

/-- A number in groups of sixty: `first` tells how it may begin. -/
def isSexagesimal (first : Char → Bool) (cs : List Char) : Bool :=
  match splitAt ':' cs with
  | (c :: rest) :: part :: parts =>
    first c && rest.all isDigitOrGap && (part :: parts).all isSixtieth
  | _ => false

def isNonzeroDigit (c : Char) : Bool := '1' ≤ c && c ≤ '9'

def isInteger (cs : List Char) : Bool :=
  let body := dropSign cs
  let filled (p : Char → Bool) (rest : List Char) : Bool :=
    !rest.isEmpty && rest.all fun c => p c || c == '_'
  match body with
  | '0' :: 'b' :: rest => filled (fun c => c == '0' || c == '1') rest
  | '0' :: 'x' :: rest => filled (fun c => (Text.hexValue? c).isSome) rest
  | ['0'] => true
  | '0' :: rest => filled (fun c => '0' ≤ c && c ≤ '7') rest
  | c :: rest =>
    isNonzeroDigit c && rest.all isDigitOrGap || isSexagesimal isNonzeroDigit (c :: rest)
  | [] => false

/-- Whether a text is empty or an exponent with a sign. -/
def isExponentOrEmpty : List Char → Bool
  | [] => true
  | e :: sign :: digits =>
    (e == 'e' || e == 'E') && (sign == '+' || sign == '-') && !digits.isEmpty &&
      digits.all Char.isDigit
  | _ => false

/-- Whether a text is digits, possibly none, and then an exponent or nothing. -/
def isFraction (cs : List Char) : Bool := isExponentOrEmpty (cs.dropWhile isDigitOrGap)

def isFloat (cs : List Char) : Bool :=
  let body := dropSign cs
  let word := String.ofList (body.drop 1)
  let whole := body.takeWhile (· != '.')
  let rest := body.drop (whole.length + 1)
  match body with
  | '.' :: c :: _ =>
    (spellings "inf").contains word ||
      (body == cs && (c.isDigit && isFraction rest || ["nan", "NaN", "NAN"].contains word))
  | c :: _ =>
    body.contains '.' && c.isDigit &&
      ((whole.all isDigitOrGap && isFraction rest) ||
        (isSexagesimal Char.isDigit whole && rest.all isDigitOrGap))
  | [] => false

/-- The parts of a date and time in digits. `zone` is a sign with hours and minutes. -/
structure MomentText where
  year : List Char
  month : List Char
  day : List Char
  time : Option (List Char × List Char × List Char × List Char)
  /-- The time is universal time, or east of it if the sign is positive. -/
  zone : Option (Option (Bool × List Char × List Char))

def digits? (least greatest : Nat) (cs : List Char) : Option (List Char × List Char) :=
  let taken := cs.takeWhile Char.isDigit
  if least ≤ taken.length ∧ taken.length ≤ greatest then some (taken, cs.drop taken.length)
  else none

def behind? (mark : Char) : List Char → Option (List Char)
  | c :: rest => if c = mark then some rest else none
  | [] => none

def dropBlanks (cs : List Char) : List Char := cs.dropWhile fun c => c == ' ' || c == '\t'

/-- The offset that ends a time, if there is one. -/
def zone? (cs : List Char) : Option (Option (Option (Bool × List Char × List Char))) :=
  match cs with
  | [] => some none
  | _ =>
    match dropBlanks cs with
    | ['Z'] => some (some none)
    | sign :: rest =>
      if sign = '+' ∨ sign = '-' then do
        let (hours, rest) ← digits? 1 2 rest
        match rest with
        | [] => return some (some (sign == '-', hours, []))
        | _ =>
          let (minutes, rest) ← digits? 2 2 (← behind? ':' rest)
          if rest.isEmpty then return some (some (sign == '-', hours, minutes)) else none
      else none
    | [] => none

/-- Reads a date, possibly with a time of day and an offset. -/
def MomentText.ofChars? (cs : List Char) : Option MomentText := do
  let (year, rest) ← digits? 4 4 cs
  let (month, rest) ← digits? 1 2 (← behind? '-' rest)
  let (day, rest) ← digits? 1 2 (← behind? '-' rest)
  match rest with
  | [] => return ⟨year, month, day, none, none⟩
  | mark :: after =>
    let rest ←
      if mark = 'T' ∨ mark = 't' then some after
      else if mark = ' ' ∨ mark = '\t' then some (dropBlanks after)
      else none
    let (hour, rest) ← digits? 1 2 rest
    let (minute, rest) ← digits? 2 2 (← behind? ':' rest)
    let (second, rest) ← digits? 2 2 (← behind? ':' rest)
    let (fraction, rest) := match rest with
      | '.' :: tail => (tail.takeWhile Char.isDigit, tail.dropWhile Char.isDigit)
      | _ => ([], rest)
    let zone ← zone? rest
    return ⟨year, month, day, some (hour, minute, second, fraction), zone⟩

/-- A date alone has all its digits. -/
def isMoment (cs : List Char) : Bool :=
  match MomentText.ofChars? cs with
  | some m => m.time.isSome || (m.month.length == 2 && m.day.length == 2)
  | none => false

/-- A text without the line end that ends it. A line end alone is kept. -/
def dropLineEnd (cs : List Char) : List Char :=
  if 1 < cs.length ∧ cs.getLast? = some '\n' then cs.dropLast else cs

/-- The tag of a plain scalar. A line end behind it is of no account. -/
def implicitTag (text : String) : String :=
  let cs := dropLineEnd text.toList
  let s := String.ofList cs
  standardTag <|
    if isTruth s then "bool"
    else if isFloat cs then "float"
    else if isInteger cs then "int"
    else if s == "<<" then "merge"
    else if isNull s then "null"
    else if isMoment cs then "timestamp"
    else if s == "=" then "value"
    else "str"

end RasterTensor.Yaml
