import RasterTensor.Document.Coerce
import RasterTensor.Document.Moment

/-!
# A place in a document

A document is scanned from a cursor, which knows its line and column. Past the end every
character is NUL, which no document holds.
-/

namespace RasterTensor.Yaml

open Document

/-- Why a document cannot be read. Only the first reason is the document's syntax; the others are
values that are well formed and cannot be built. -/
inductive Error where
  | malformed
  | nested
  /-- An escape with a number that belongs to no character. -/
  | character (number : Nat)
  | coercion (error : CoercionError)
  | numeral (base : Nat) (text : String)
  | moment (fault : MomentFault)
  /-- A value that is marked as a time and is none. -/
  | noMoment
  /-- A value that holds itself. Values are finite here, so there is none to build. -/
  | endless
  deriving DecidableEq

structure Cursor where
  rest : List Char
  /-- The number of characters before. -/
  index : Nat
  line : Nat
  column : Nat

/-- A scanner: it moves a cursor or fails. -/
abbrev Scan (α : Type) := StateT Cursor (Except Error) α

def endMark : Char := '\x00'

def isBreak (c : Char) : Bool :=
  c == '\n' || c == '\r' || c == '\u0085' || c == '\u2028' || c == '\u2029'

def isBreakOrEnd (c : Char) : Bool := isBreak c || c == endMark

/-- A space, or where a line or the document ends. -/
def isSpaceOrEnd (c : Char) : Bool := c == ' ' || isBreakOrEnd c

/-- White space, or where a line or the document ends. -/
def isBlankOrEnd (c : Char) : Bool := c == '\t' || isSpaceOrEnd c

def isAllowed (c : Char) : Bool :=
  let n := c.toNat
  n == 0x09 || n == 0x0A || n == 0x0D || (0x20 ≤ n && n ≤ 0x7E) || n == 0x85 ||
    (0xA0 ≤ n && n ≤ 0xD7FF) || (0xE000 ≤ n && n ≤ 0xFFFD) || 0x10000 ≤ n

namespace Cursor

def start (text : List Char) : Cursor := ⟨text, 0, 0, 0⟩

def peek (c : Cursor) (distance : Nat) : Char := c.rest.getD distance endMark

def next (c : Cursor) : Cursor :=
  match c.rest with
  | [] => c
  | ch :: rest =>
    if isBreak ch && !(ch == '\r' && rest.head? == some '\n') then
      ⟨rest, c.index + 1, c.line + 1, 0⟩
    else ⟨rest, c.index + 1, c.line, if ch = '\uFEFF' then c.column else c.column + 1⟩

def forward (n : Nat) (c : Cursor) : Cursor := n.repeat next c

/-- Whether the cursor is at a mark of three equal characters that stands alone. -/
def atMark (c : Cursor) (mark : Char) : Bool :=
  c.rest.take 3 == [mark, mark, mark] && isBlankOrEnd (c.peek 3)

def atBoundary (c : Cursor) : Bool := c.atMark '-' || c.atMark '.'

end Cursor

namespace Scan

def fail {α : Type} : Scan α := throw .malformed

def peek (distance : Nat) : Scan Char := return (← get).peek distance

def forward (n : Nat) : Scan Unit := modify (Cursor.forward n)

def takeWhile (p : Char → Bool) : Scan (List Char) := do
  let taken := (← get).rest.takeWhile p
  forward taken.length
  return taken

def skipWhile (p : Char → Bool) : Scan Unit := do
  let _ ← takeWhile p

/-- Takes a line break, if there is one. Most kinds count as a line feed. -/
def lineBreak : Scan (List Char) := do
  let c ← peek 0
  if c = '\u2028' ∨ c = '\u2029' then
    forward 1
    return [c]
  else if isBreak c then
    forward (if c = '\r' ∧ (← peek 1) = '\n' then 2 else 1)
    return ['\n']
  else return []

/-- Takes the rest of a line that can only hold a comment. -/
def restOfLine : Scan Unit := do
  skipWhile (· == ' ')
  if (← peek 0) = '#' then skipWhile fun c => !isBreakOrEnd c
  if !isBreakOrEnd (← peek 0) then fail
  let _ ← lineBreak

/-- How many steps a loop over what is left can take. -/
def fuel : Scan Nat := return (← get).rest.length + 1

end Scan

end RasterTensor.Yaml
