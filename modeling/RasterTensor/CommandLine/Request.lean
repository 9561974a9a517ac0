import RasterTensor.CommandLine.Flag
import RasterTensor.Decimal.Numeral

/-!
# Reading the command line

A flag can be spelled in full, by any beginning of its long spelling that no other flag shares,
or by its letter. Its value follows as the next argument, behind an equals sign, or right behind
the letter, and letters that take no value can stand together. Every argument is looked at for
which flag it names before any of them takes effect.
-/

namespace RasterTensor.CommandLine

open Text

/-- What stands behind a flag in the same argument, and whether an equals sign precedes it. -/
structure Attached where
  equals : Bool
  text : List Char

inductive Word where
  | flag (f : Flag) (attached : Option Attached)
  | stray
  | value

/-- The parts before and after the first equals sign, if there is one. -/
def splitEquals (cs : List Char) : List Char × Option (List Char) :=
  match cs.dropWhile (· != '=') with
  | [] => (cs, none)
  | _ :: after => (cs.takeWhile (· != '='), some after)

/-- Whether a text is a minus sign and a decimal number in digits of any script. One line end may
follow. -/
def isNegativeNumber (cs : List Char) : Bool :=
  let cs := if cs.getLast? = some '\n' then cs.dropLast else cs
  match cs with
  | '-' :: body =>
    let isDigit (c : Char) : Bool := (digitValue? c).isSome
    match body.dropWhile isDigit with
    | [] => !body.isEmpty
    | '.' :: fraction => !fraction.isEmpty && fraction.all isDigit
    | _ => false
  | _ => false

/-- The flags that an argument with a leading dash can name when no flag is spelled like it. -/
def candidates (cs : List Char) : List (List Char × Flag × Option Attached) :=
  match cs with
  | '-' :: '-' :: _ =>
    let (before, after) := splitEquals cs
    (Flag.spelled.filter fun (s, _) => before.isPrefixOf s).map fun (s, f) =>
      (s, f, after.map fun text => ⟨true, text⟩)
  | '-' :: c :: rest =>
    (Flag.spelled.filter fun (s, _) => s = ['-', c]).map fun (s, f) => (s, f, some ⟨false, rest⟩)
  | _ => []

/-- The flag that an argument spells in full, with what follows an equals sign. -/
def exactFlag? (cs : List Char) : Option (Flag × Option Attached) :=
  match Flag.ofSpelling? cs with
  | some f => some (f, none)
  | none =>
    match splitEquals cs with
    | (before, some after) => (Flag.ofSpelling? before).map fun f => (f, some ⟨true, after⟩)
    | (_, none) => none

/-- What an argument is. One with a leading dash that names no flag is still a value when it is a
negative number or holds a space. -/
def classify (argument : String) : Except UsageError Word :=
  let cs := argument.toList
  if cs.head? ≠ some '-' ∨ cs.length = 1 then .ok .value
  else
    match exactFlag? cs with
    | some (f, attached) => .ok (.flag f attached)
    | none =>
      match candidates cs with
      | [(_, f, attached)] => .ok (.flag f attached)
      | [] => .ok (if isNegativeNumber cs || cs.contains ' ' then .value else .stray)
      | several => .error (.ambiguous argument (several.map fun (s, _) => .ofList s))

/-- All arguments with what they are. Two dashes alone make values of all that follow. -/
def classifyAll : List String → Except UsageError (List (String × Word))
  | [] => .ok []
  | "--" :: rest => .ok (("--", .stray) :: rest.map fun a => (a, .value))
  | a :: rest => do
    let word ← classify a
    return (a, word) :: (← classifyAll rest)

/-- How an argument with flags ends: with a flag and its value, with a flag whose value would be
the next argument, or with a letter that is no flag. -/
inductive Tail where
  | given (f : Flag) (text : String)
  | bare (f : Flag)
  | stray (text : String)

/-- The flags without a value at the head of an argument, and how it ends. -/
def cluster (f : Flag) (equals : Bool) : List Char → Except UsageError (List Flag × Tail)
  | [] => if f.takesValue then .ok ([], .given f "") else .error (.valueIgnored f "")
  | c :: rest =>
    if f.takesValue then .ok ([], .given f (.ofList (c :: rest)))
    else if equals || c = '-' then .error (.valueIgnored f (.ofList (c :: rest)))
    else
      match Flag.ofSpelling? ['-', c], rest with
      | none, _ => .ok ([f], .stray (.ofList ('-' :: c :: rest)))
      | some next, [] => .ok ([f], .bare next)
      | some next, '=' :: after => (cluster next true after).map fun (fs, tail) => (f :: fs, tail)
      | some next, rest => (cluster next false rest).map fun (fs, tail) => (f :: fs, tail)

/-- The values that the flags have, where they are given; the last one of a flag counts. -/
structure Invocation where
  config : Option String := none
  input : Option String := none
  frontEnd : Option String := none
  output : Option String := none
  elementType : Option String := none
  width : Option Int := none
  height : Option Int := none
  layout : Option String := none
  report : Option String := none
  verbose : Bool := false
  deriving DecidableEq

inductive Request where
  | help
  | convert (invocation : Invocation)
  deriving DecidableEq

namespace Invocation

def setText (v : Invocation) (f : Flag) (text : String) : Invocation :=
  match f with
  | .config => { v with config := some text }
  | .input => { v with input := some text }
  | .frontEnd => { v with frontEnd := some text }
  | .output => { v with output := some text }
  | .elementType => { v with elementType := some text }
  | .layout => { v with layout := some text }
  | .report => { v with report := some text }
  | _ => v

def setInteger (v : Invocation) (f : Flag) (i : Int) : Invocation :=
  match f with
  | .width => { v with width := some i }
  | .height => { v with height := some i }
  | _ => v

/-- Sets the value of a flag, which has to be of the kind that the flag takes. -/
def accept (v : Invocation) (f : Flag) (text : String) : Except UsageError Invocation :=
  match f.operand with
  | .nothing => .ok v
  | .anything => .ok (v.setText f text)
  | .integer =>
    match Decimal.integer text.toList with
    | .ok i => .ok (v.setInteger f i)
    | .error _ => .error (.notInteger f text)
  | .oneOf names =>
    if names.contains text then .ok (v.setText f text) else .error (.notOneOf f names text)

def switch (v : Invocation) (fs : List Flag) : Invocation :=
  if fs.contains .verbose then { v with verbose := true } else v

end Invocation

/-- Takes the flags in order. What is left over at the end is refused, and the flag for help ends
the reading at once. -/
def read (v : Invocation) (extra : List String) :
    List (String × Word) → Except UsageError Request
  | [] => if extra.isEmpty then .ok (.convert v) else .error (.unrecognized extra)
  | (_, .flag f attached) :: rest => do
    let (switches, tail) ←
      match attached with
      | none => .ok ([], .bare f)
      | some a => cluster f a.equals a.text
    match tail, rest with
    | .bare last, rest =>
      if last.takesValue then
        match rest with
        | (text, .value) :: rest =>
          if switches.contains .help then return .help
          read (← (v.switch switches).accept last text) extra rest
        | _ => throw (.valueMissing last)
      else if (switches ++ [last]).contains .help then return .help
      else read (v.switch (switches ++ [last])) extra rest
    | .given last text, rest =>
      if switches.contains .help then return .help
      read (← (v.switch switches).accept last text) extra rest
    | .stray text, rest =>
      if switches.contains .help then return .help
      read (v.switch switches) (extra ++ [text]) rest
  | (text, _) :: rest => read v (extra ++ [text]) rest

def Request.ofArguments (arguments : List String) : Except UsageError Request := do
  read {} [] (← classifyAll arguments)

end RasterTensor.CommandLine
