import RasterTensor.Decimal.Numeral
import RasterTensor.Decimal.Style
import RasterTensor.Document.Value
import RasterTensor.Text.Quoted

/-!
# Values in messages

The text of a value as messages show it: texts in quotes, sequences in brackets, mappings in
braces. `Value.plain` is the same with a bare text, date or time left without its wrapping.

An integer with too many digits has no text, and neither has a value whose members lie deeper than
the interpreter follows them. How deep that is depends on the place that asks for the text, so it
is an argument.
-/

namespace RasterTensor.Document

open Text

/-- Why a value has no text. -/
inductive TextFault where
  | integerTooLong
  | nested
  deriving DecidableEq

/-- How many levels of members are followed where the text of a key is made, where a value is
written as it stands alone, and where one is shown. -/
structure Reach where
  key : Nat
  plain : Nat
  shown : Nat

/-- Only values without members have a text. -/
def Reach.flat : Reach := ⟨0, 0, 0⟩

def integerShown (i : Int) : Except TextFault String :=
  if i.natAbs < Decimal.integerLimit then .ok (integerText i) else .error .integerTooLong

/-- A difference of times as whole days and the seconds that remain. -/
def durationText (seconds : Int) : String :=
  let days := seconds / (secondsPerDay : Int)
  let rest := seconds % (secondsPerDay : Int)
  let parts :=
    (if days = 0 then [] else ["days=" ++ integerText days]) ++
    (if rest = 0 then [] else ["seconds=" ++ integerText rest])
  "datetime.timedelta(" ++ (if parts.isEmpty then "0" else commaList parts) ++ ")"

def dateText (d : Date) : String :=
  "datetime.date(" ++ commaList ([d.year, d.month, d.day].map naturalText) ++ ")"

/-- Trailing zero seconds and microseconds are left out. -/
def momentText (t : Moment) : String :=
  let tail :=
    if t.microsecond ≠ 0 then [t.second, t.microsecond]
    else if t.second ≠ 0 then [t.second]
    else []
  let numbers := [t.date.year, t.date.month, t.date.day, t.hour, t.minute] ++ tail
  let zone := match t.offset with
    | none => []
    | some 0 => ["tzinfo=datetime.timezone.utc"]
    | some seconds => ["tzinfo=datetime.timezone(" ++ durationText seconds ++ ")"]
  "datetime.datetime(" ++ commaList (numbers.map naturalText ++ zone) ++ ")"

def parenthesized (parts : List String) : String :=
  match parts with
  | [one] => "(" ++ one ++ ",)"
  | _ => "(" ++ commaList parts ++ ")"

namespace Value

/-- A value as messages show it, with members down to `depth` levels below it. The members of a
set are gone through as those of a list of their own. -/
def shown : Value → (depth : Nat) → Except TextFault String
  | .null, _ => .ok "None"
  | .bool b, _ => .ok (if b then "True" else "False")
  | .int i, _ => integerShown i
  | .float x, _ => .ok (Decimal.render .message x)
  | .text s, _ => .ok (quoted s)
  | .bytes content, _ => .ok (quotedBytes content)
  | .date d, _ => .ok (dateText d)
  | .moment t, _ => .ok (momentText t)
  | .choice c, _ => .ok ("<" ++ c.list.title ++ "." ++ c.label ++ ": " ++ quoted c.name ++ ">")
  | .list items, depth => do return "[" ++ commaList (← shownAll items depth) ++ "]"
  | .tuple items, depth => do return parenthesized (← shownAll items depth)
  | .set members, depth =>
    if members.isEmpty then .ok "set()"
    else do return "\x7b" ++ commaList (← shownAll members (depth - 1)) ++ "\x7d"
  | .mapping entries, depth => do
    return "\x7b" ++ commaList (← shownEntries entries depth) ++ "\x7d"
where
  shownAll : List Value → (depth : Nat) → Except TextFault (List String)
    | [], _ => .ok []
    | _ :: _, 0 => .error .nested
    | v :: rest, depth + 1 => do return (← v.shown depth) :: (← shownAll rest (depth + 1))
  shownEntries : List (Value × Value) → (depth : Nat) → Except TextFault (List String)
    | [], _ => .ok []
    | _ :: _, 0 => .error .nested
    | (k, v) :: rest, depth + 1 => do
      let key ← k.shown depth
      let value ← v.shown depth
      return (key ++ ": " ++ value) :: (← shownEntries rest (depth + 1))

/-- A value as it stands alone in a running text. -/
def plain : Value → (depth : Nat) → Except TextFault String
  | .text s, _ => .ok s
  | .date d, _ => .ok d.text
  | .moment t, _ => .ok t.text
  | .choice c, _ => .ok (c.list.title ++ "." ++ c.label)
  | v, depth => v.shown depth

end Value

end RasterTensor.Document
