import RasterTensor.Text.Digit

/-!
# Dates and times

Calendar dates, and times of day with an optional offset from universal time, as configuration
documents write them.
-/

namespace RasterTensor.Document

structure Date where
  year : Nat
  month : Nat
  day : Nat
  deriving DecidableEq

/-- `offset` counts the seconds east of universal time. -/
structure Moment where
  date : Date
  hour : Nat
  minute : Nat
  second : Nat
  microsecond : Nat
  offset : Option Int
  deriving DecidableEq

inductive MomentFault where
  | year (year : Nat)
  | month
  | day
  | hour
  | minute
  | second
  | offset (seconds : Int)
  deriving DecidableEq

def isLeap (year : Nat) : Bool :=
  year % 4 == 0 && (year % 100 != 0 || year % 400 == 0)

def daysIn (year month : Nat) : Nat :=
  if month = 2 then if isLeap year then 29 else 28
  else if month = 4 ∨ month = 6 ∨ month = 9 ∨ month = 11 then 30
  else 31

def Date.check (d : Date) : Except MomentFault Date :=
  if d.year = 0 ∨ 9999 < d.year then .error (.year d.year)
  else if d.month = 0 ∨ 12 < d.month then .error .month
  else if d.day = 0 ∨ daysIn d.year d.month < d.day then .error .day
  else .ok d

/-- The seconds of a day. An offset from universal time is smaller in absolute value. -/
def secondsPerDay : Nat := 86400

def Moment.check (t : Moment) : Except MomentFault Moment := do
  match t.offset with
  | some seconds => if secondsPerDay ≤ seconds.natAbs then throw (.offset seconds)
  | none => pure ()
  let _ ← t.date.check
  if 23 < t.hour then throw .hour
  if 59 < t.minute then throw .minute
  if 59 < t.second then throw .second
  return t

def padded (width n : Nat) : String :=
  let digits := Text.decimal n
  .ofList (List.replicate (width - digits.length) '0' ++ digits)

def Date.text (d : Date) : String :=
  padded 4 d.year ++ "-" ++ padded 2 d.month ++ "-" ++ padded 2 d.day

/-- An offset as hours and minutes, and seconds where there are any. -/
def offsetText (seconds : Int) : String :=
  let n := seconds.natAbs
  let tail := if n % 60 = 0 then "" else ":" ++ padded 2 (n % 60)
  (if seconds < 0 then "-" else "+") ++ padded 2 (n / 3600) ++ ":" ++ padded 2 (n / 60 % 60) ++ tail

/-- A time with a mark between the date and the time of day. -/
def Moment.textWith (mark : String) (t : Moment) : String :=
  let fraction := if t.microsecond = 0 then "" else "." ++ padded 6 t.microsecond
  t.date.text ++ mark ++ padded 2 t.hour ++ ":" ++ padded 2 t.minute ++ ":" ++ padded 2 t.second
    ++ fraction ++ (t.offset.map offsetText).getD ""

def Moment.text (t : Moment) : String := t.textWith " "

def Moment.compactText (t : Moment) : String := t.textWith "T"

/-- The days of 400 years, after which the calendar repeats. -/
def daysOfCycle : Nat := 146097

/-- The days from the first of March of the year 0 to the first of January 1970. -/
def daysBeforeEpoch : Nat := 719468

/-- The date a number of days after the first of January 1970. Years are counted from March on, so
that a leap day is the last of its year. -/
def Date.ofDays (days : Nat) : Date :=
  let cycle := (days + daysBeforeEpoch) / daysOfCycle
  let inCycle := (days + daysBeforeEpoch) % daysOfCycle
  let year := (inCycle - inCycle / 1460 + inCycle / 36524 - inCycle / 146096) / 365
  let inYear := inCycle - (365 * year + year / 4 - year / 100)
  let month := (5 * inYear + 2) / 153
  let day := inYear - (153 * month + 2) / 5 + 1
  let inNextYear := 10 ≤ month
  ⟨cycle * 400 + year + (if inNextYear then 1 else 0), if inNextYear then month - 9 else month + 3,
    day⟩

/-- The time in universal time a number of seconds after the start of 1970. -/
def Moment.ofSeconds (seconds microsecond : Nat) : Moment :=
  let rest := seconds % secondsPerDay
  ⟨.ofDays (seconds / secondsPerDay), rest / 3600, rest / 60 % 60, rest % 60, microsecond, some 0⟩

end RasterTensor.Document
