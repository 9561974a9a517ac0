import RasterTensor.Text.Digit
import RasterTensor.Text.Utf8
import RasterTensor.Yaml.Cursor

/-!
# Tokens of a document

The tokens, and the scanners for those that hold a text: directives, anchors, tags and scalars in
each of their styles.
-/

namespace RasterTensor.Yaml

inductive Directive where
  | version (major : Nat)
  | tag (handle start : String)
  | other
  deriving DecidableEq

inductive Token where
  | directive (d : Directive)
  | documentStart
  | documentEnd
  | streamEnd
  | blockSequenceStart
  | blockMappingStart
  | blockEnd
  | flowSequenceStart
  | flowMappingStart
  | flowSequenceEnd
  | flowMappingEnd
  | blockEntry
  | flowEntry
  | key
  | value
  | alias (name : String)
  | anchor (name : String)
  | tag (handle : Option String) (suffix : String)
  | scalar (text : String) (plain : Bool)
  deriving DecidableEq

namespace Scan

def isWord (c : Char) : Bool := c.isAlphanum || c == '-' || c == '_'

def word : Scan (List Char) := do
  let name ← takeWhile isWord
  if name.isEmpty then fail
  return name

def number : Scan Nat := do
  let digits ← takeWhile Char.isDigit
  if digits.isEmpty then fail
  return digits.foldl (fun n c => n * 10 + (c.toNat - 48)) 0

def tagHandle : Scan String := do
  if (← peek 0) ≠ '!' then fail
  forward 1
  if (← peek 0) = ' ' then return "!"
  let name ← takeWhile isWord
  if (← peek 0) ≠ '!' then fail
  forward 1
  return .ofList ('!' :: name ++ ['!'])

/-- The characters that a tag can be spelled with, other than escapes. -/
def isTagChar (c : Char) : Bool := c.isAlphanum || "-;/?:@&=+$,_.!~*'()[]".contains c

def escapedBytes : (fuel : Nat) → (out : List UInt8) → Scan (List UInt8)
  | 0, _ => fail
  | n + 1, out => do
    if (← peek 0) ≠ '%' then return out.reverse
    match Text.hexValue? (← peek 1), Text.hexValue? (← peek 2) with
    | some high, some low =>
      forward 3
      escapedBytes n (.ofNat (16 * high + low) :: out)
    | _, _ => fail

/-- The spelling of a tag, with escapes for bytes. -/
def tagChars : (fuel : Nat) → (out : List Char) → Scan (List Char)
  | 0, _ => fail
  | n + 1, out => do
    let taken ← takeWhile isTagChar
    if (← peek 0) = '%' then
      let bytes ← escapedBytes (← fuel) []
      match Text.decodeUtf8 ⟨bytes.toArray⟩ with
      | .ok chars => tagChars n (out ++ taken ++ chars)
      | .error _ => fail
    else return out ++ taken

def tagText : Scan String := do
  let chars ← tagChars (← fuel) []
  if chars.isEmpty then fail
  return .ofList chars

def directive : Scan Token := do
  forward 1
  let name ← word
  if !isSpaceOrEnd (← peek 0) then fail
  let d : Directive ←
    if name = "YAML".toList then do
      skipWhile (· == ' ')
      let major ← number
      if (← peek 0) ≠ '.' then fail
      forward 1
      let _ ← number
      if !isSpaceOrEnd (← peek 0) then fail
      pure (.version major)
    else if name = "TAG".toList then do
      skipWhile (· == ' ')
      let handle ← tagHandle
      if (← peek 0) ≠ ' ' then fail
      skipWhile (· == ' ')
      let start ← tagText
      if !isSpaceOrEnd (← peek 0) then fail
      pure (.tag handle start)
    else do
      skipWhile fun c => !isBreakOrEnd c
      pure .other
  restOfLine
  return .directive d

def anchorName : Scan String := do
  forward 1
  let name ← word
  let c ← peek 0
  if !(isBlankOrEnd c || ['?', ':', ',', ']', '\x7d', '%', '@', '\x60'].contains c) then fail
  return .ofList name

def tag : Scan Token := do
  let c ← peek 1
  let token ←
    if c = '<' then do
      forward 2
      let suffix ← tagText
      if (← peek 0) ≠ '>' then fail
      forward 1
      pure (Token.tag none suffix)
    else if isBlankOrEnd c then do
      forward 1
      pure (Token.tag none "!")
    else do
      let text := ((← get).rest.drop 1).takeWhile fun c => !isSpaceOrEnd c
      let handle ←
        if text.contains '!' then tagHandle
        else do
          forward 1
          pure "!"
      pure (Token.tag (some handle) (← tagText))
  if !isSpaceOrEnd (← peek 0) then fail
  return token

/-- What happens to the line breaks at the end of a block scalar. -/
inductive Chomping where
  | strip
  | clip
  | keep
  deriving DecidableEq

def chompingMark : Scan (Option Chomping) := do
  match ← peek 0 with
  | '+' =>
    forward 1
    return some .keep
  | '-' =>
    forward 1
    return some .strip
  | _ => return none

def indentMark : Scan (Option Nat) := do
  let c ← peek 0
  if c = '0' then fail
  if c.isDigit then
    forward 1
    return some (c.toNat - 48)
  return none

/-- The marks after the one that begins a block scalar, in either order. -/
def blockMarks : Scan (Chomping × Option Nat) := do
  let marks ←
    match ← chompingMark with
    | some chomping => pure (chomping, ← indentMark)
    | none =>
      let increment ← indentMark
      match increment with
      | some _ => pure ((← chompingMark).getD .clip, increment)
      | none => pure (.clip, none)
  if !isSpaceOrEnd (← peek 0) then fail
  return marks

/-- The line breaks before the first line of a block scalar, and the greatest column on the way. -/
def leadingBreaks : (fuel greatest : Nat) → (out : List Char) → Scan (List Char × Nat)
  | 0, greatest, out => return (out, greatest)
  | n + 1, greatest, out => do
    let c ← peek 0
    if c = ' ' then
      forward 1
      leadingBreaks n (max greatest (← get).column) out
    else if isBreak c then leadingBreaks n greatest (out ++ (← lineBreak))
    else return (out, greatest)

def skipIndent (indent : Nat) : Scan Unit := do
  let c ← get
  forward ((c.rest.takeWhile (· == ' ')).take (indent - c.column)).length

/-- The line breaks between lines of a block scalar. -/
def blockBreaks (indent : Nat) : (fuel : Nat) → (out : List Char) → Scan (List Char)
  | 0, out => return out
  | n + 1, out => do
    skipIndent indent
    if isBreak (← peek 0) then blockBreaks indent n (out ++ (← lineBreak)) else return out

def isSpaceOrTab (c : Char) : Bool := c == ' ' || c == '\t'

/-- The lines of a block scalar. `breaks` are the line breaks before the next line; the result
has the last line break and those after it apart. -/
def blockLines (folded : Bool) (indent : Nat) :
    (fuel : Nat) → (breaks out : List Char) → Scan (List Char × List Char × List Char)
  | 0, breaks, out => return (out, [], breaks)
  | n + 1, breaks, out => do
    let startsText := !isSpaceOrTab (← peek 0)
    let line ← takeWhile fun c => !isBreakOrEnd c
    let out := out ++ breaks ++ line
    let ending ← lineBreak
    let breaks ← blockBreaks indent (← fuel) []
    if (← get).column = indent ∧ (← peek 0) ≠ endMark then
      let isFolded := folded && ending == ['\n'] && startsText && !isSpaceOrTab (← peek 0)
      let joint := if isFolded then (if breaks.isEmpty then [' '] else []) else ending
      blockLines folded indent n breaks (out ++ joint)
    else return (out, ending, breaks)

/-- The text of a block scalar behind the line breaks before its first line. -/
def blockText (folded : Bool) (chomping : Chomping) (indent : Nat) (breaks : List Char) :
    Scan (List Char) := do
  let (text, ending, breaks) ←
    if (← get).column = indent ∧ (← peek 0) ≠ endMark then
      blockLines folded indent (← fuel) breaks []
    else pure ([], [], breaks)
  let tail := match chomping with
    | .strip => []
    | .clip => ending
    | .keep => ending ++ breaks
  return text ++ tail

/-- A block scalar, from its mark on, inside a block of an indentation. -/
def blockScalar (folded : Bool) (blockIndent : Int) : Scan Token := do
  forward 1
  let (chomping, increment) ← blockMarks
  restOfLine
  let least := (max 1 (blockIndent + 1)).toNat
  let text ←
    match increment with
    | none =>
      let (breaks, greatest) ← leadingBreaks (← fuel) 0 []
      blockText folded chomping (max least greatest) breaks
    | some n =>
      let indent := least + n - 1
      blockText folded chomping indent (← blockBreaks indent (← fuel) [])
  return .scalar (.ofList text) false

def escapes : List (Char × Char) :=
  [('0', '\x00'), ('a', '\x07'), ('b', '\x08'), ('t', '\t'), ('\t', '\t'), ('n', '\n'),
    ('v', '\x0b'), ('f', '\x0c'), ('r', '\r'), ('e', '\x1b'), (' ', ' '), ('"', '"'), ('\\', '\\'),
    ('/', '/'), ('N', '\u0085'), ('_', '\u00a0'), ('L', '\u2028'), ('P', '\u2029')]

def escapeDigits? (c : Char) : Option Nat :=
  if c = 'x' then some 2 else if c = 'u' then some 4 else if c = 'U' then some 8 else none

def maxCharacter : Nat := 0x10FFFF

/-- A number in hexadecimal digits, all of which have to be there. -/
def hexNumber (digits : Nat) : Scan Nat := do
  let taken := (← get).rest.take digits
  match taken.mapM Text.hexValue? with
  | some values =>
    if values.length ≠ digits then fail
    forward digits
    return values.foldl (fun n d => 16 * n + d) 0
  | none => fail

/-- The line breaks inside a quoted scalar, up to the next text. -/
def quotedBreaks : (fuel : Nat) → (out : List Char) → Scan (List Char)
  | 0, _ => fail
  | n + 1, out => do
    if (← get).atBoundary then fail
    skipWhile isSpaceOrTab
    if isBreak (← peek 0) then quotedBreaks n (out ++ (← lineBreak)) else return out

/-- What an escape stands for, from the character after its mark on. -/
def escape : Scan (List Char) := do
  let c ← peek 0
  match escapes.lookup c, escapeDigits? c with
  | some plain, _ =>
    forward 1
    return [plain]
  | none, some digits =>
    forward 1
    let number ← hexNumber digits
    if maxCharacter < number then throw (.character number)
    return [if (Char.ofNat number).toNat = number then Char.ofNat number else '\uFFFD']
  | none, none =>
    if isBreak c then
      let _ ← lineBreak
      quotedBreaks (← fuel) []
    else fail

/-- The characters of a quoted scalar up to white space or its end. -/
def quotedText (double : Bool) : (fuel : Nat) → (out : List Char) → Scan (List Char)
  | 0, _ => fail
  | n + 1, out => do
    let taken ← takeWhile fun c => !(isBlankOrEnd c || c == '\'' || c == '"' || c == '\\')
    let out := out ++ taken
    let c ← peek 0
    if !double && c == '\'' && (← peek 1) == '\'' then
      forward 2
      quotedText double n (out ++ ['\''])
    else if (double && c == '\'') || (!double && (c == '"' || c == '\\')) then
      forward 1
      quotedText double n (out ++ [c])
    else if double && c == '\\' then
      forward 1
      quotedText double n (out ++ (← escape))
    else return out

/-- White space inside a quoted scalar. A single line break counts as a space. -/
def quotedSpace : Scan (List Char) := do
  let blanks ← takeWhile isSpaceOrTab
  let c ← peek 0
  if c = endMark then fail
  if isBreak c then
    let ending ← lineBreak
    let breaks ← quotedBreaks (← fuel) []
    let joint := if ending ≠ ['\n'] then ending else if breaks.isEmpty then [' '] else []
    return joint ++ breaks
  else return blanks

/-- What is left of a quoted scalar up to its closing quote. -/
def quotedRest (double : Bool) : (fuel : Nat) → (out : List Char) → Scan (List Char)
  | 0, _ => fail
  | n + 1, out => do
    if (← peek 0) = (if double then '"' else '\'') then
      forward 1
      return out
    let blanks ← quotedSpace
    let text ← quotedText double (← fuel) []
    quotedRest double n (out ++ blanks ++ text)

/-- A quoted scalar, from its quote on. -/
def quotedScalar (double : Bool) : Scan Token := do
  forward 1
  let first ← quotedText double (← fuel) []
  let text ← quotedRest double (← fuel) first
  return .scalar (.ofList text) false

/-- How many characters of a plain scalar come before white space or a mark. -/
def plainLength (inFlow : Bool) : List Char → Nat
  | [] => 0
  | c :: rest =>
    let next := rest.headD endMark
    let endsKey := c == ':' && (isBlankOrEnd next || (inFlow && ",[]\x7b\x7d".contains next))
    if isBlankOrEnd c || endsKey || (inFlow && ",?[]\x7b\x7d".contains c) then 0
    else plainLength inFlow rest + 1

/-- The line breaks inside a plain scalar; there are none when a document ends or begins after
one. -/
def plainBreaks : (fuel : Nat) → (out : List Char) → Scan (Option (List Char))
  | 0, out => return some out
  | n + 1, out => do
    let c ← peek 0
    if c = ' ' then
      forward 1
      plainBreaks n out
    else if isBreak c then
      let ending ← lineBreak
      if (← get).atBoundary then return none
      plainBreaks n (out ++ ending)
    else return some out

/-- White space after a part of a plain scalar, and whether it had a line break. -/
def plainSpace : Scan (List Char × Bool) := do
  let blanks ← takeWhile (· == ' ')
  if isBreak (← peek 0) then
    let ending ← lineBreak
    if (← get).atBoundary then return ([], true)
    match ← plainBreaks (← fuel) [] with
    | none => return ([], true)
    | some breaks =>
      let joint := if ending ≠ ['\n'] then ending else if breaks.isEmpty then [' '] else []
      return (joint ++ breaks, true)
  else return (blanks, false)

/-- The parts of a plain scalar, and whether a line break came last. -/
def plainParts (inFlow : Bool) (indent : Int) :
    (fuel : Nat) → (blanks out : List Char) → (broken : Bool) → Scan (List Char × Bool)
  | 0, _, out, broken => return (out, broken)
  | n + 1, blanks, out, broken => do
    let c ← get
    let length := plainLength inFlow c.rest
    if c.peek 0 = '#' ∨ length = 0 then return (out, broken)
    forward length
    let out := out ++ blanks ++ c.rest.take length
    let (blanks, broken) ← plainSpace
    let c ← get
    if blanks.isEmpty || c.peek 0 == '#' || (!inFlow && c.column < indent) then
      return (out, broken)
    else plainParts inFlow indent n blanks out broken

/-- A plain scalar inside a block of an indentation, and whether it ended with a line break. -/
def plainScalar (inFlow : Bool) (blockIndent : Int) : Scan (Token × Bool) := do
  let (text, broken) ← plainParts inFlow (blockIndent + 1) (← fuel) [] [] false
  return (.scalar (.ofList text) true, broken)

end Scan

end RasterTensor.Yaml
