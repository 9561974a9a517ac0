import RasterTensor.Yaml.Token

/-!
# The tokens of a document in order

Indentation opens and closes blocks. What may turn out to be a key is remembered with its place;
when a colon shows that it is one, the key's tokens are inserted there.
-/

namespace RasterTensor.Yaml

/-- What may turn out to be a key. -/
structure PossibleKey where
  /-- The number of tokens before it. -/
  place : Nat
  /-- Nothing but a key can stand there. -/
  required : Bool
  index : Nat
  line : Nat
  column : Nat

structure Lexer where
  cursor : Cursor
  tokens : Array Token
  /-- How many flow collections are open. -/
  flow : Nat
  /-- The column of the innermost block; outside of all it is -1. -/
  indent : Int
  /-- The columns of the blocks around it. -/
  outer : List Int
  /-- A key can begin here. -/
  allowKey : Bool
  /-- What may turn out to be a key, by the number of open flow collections. -/
  keys : List (Nat × PossibleKey)

namespace Lexer

abbrev Lex (α : Type) := StateT Lexer (Except Error) α

def start (text : List Char) : Lexer := ⟨.start text, #[], 0, -1, [], true, []⟩

def fail {α : Type} : Lex α := throw .malformed

def scan {α : Type} (s : Scan α) : Lex α := do
  let state ← get
  let (a, cursor) ← s.run state.cursor
  set { state with cursor }
  return a

def peek (distance : Nat) : Lex Char := return (← get).cursor.peek distance

def emit (t : Token) : Lex Unit := modify fun s => { s with tokens := s.tokens.push t }

def emitMark (t : Token) (characters : Nat) : Lex Unit := do
  scan (Scan.forward characters)
  emit t

def setAllowKey (allowed : Bool) : Lex Unit := modify fun s => { s with allowKey := allowed }

def maxKey : Nat := 1024

/-- Whether something remembered can no longer turn out to be a key. -/
def isStale (c : Cursor) (k : PossibleKey) : Bool := k.line != c.line || maxKey < c.index - k.index

def dropStale : Lex Unit := do
  let s ← get
  if s.keys.any fun k => isStale s.cursor k.2 && k.2.required then fail
  set { s with keys := s.keys.filter fun k => !isStale s.cursor k.2 }

/-- Forgets what is remembered for the innermost collection. -/
def dropKey : Lex Unit := do
  let s ← get
  match s.keys.lookup s.flow with
  | some k => if k.required then fail
  | none => pure ()
  set { s with keys := s.keys.filter fun k => k.1 != s.flow }

/-- Remembers that a key may begin here. -/
def saveKey : Lex Unit := do
  let s ← get
  if s.allowKey then
    dropKey
    let c := s.cursor
    let required := s.flow == 0 && s.indent == c.column
    let k : PossibleKey := ⟨s.tokens.size, required, c.index, c.line, c.column⟩
    modify fun s => { s with keys := (s.flow, k) :: s.keys }

/-- Closes blocks, as many as `outer` has at most, that lie to the right of a column. -/
def closeBlocks (column : Int) : (outer : List Int) → Lex Unit
  | [] => pure ()
  | next :: rest => do
    if column < (← get).indent then
      modify fun s => { s with indent := next, outer := rest }
      emit .blockEnd
      closeBlocks column rest

def unwind (column : Int) : Lex Unit := do
  let s ← get
  if s.flow = 0 then closeBlocks column s.outer

/-- Opens a block at a column unless the innermost one begins there; whether it did. -/
def openBlock (column : Nat) : Lex Bool := do
  let s ← get
  if s.indent < (column : Int) then
    set { s with indent := (column : Int), outer := s.indent :: s.outer }
    return true
  else return false

/-- Opens a block at the cursor with a token, where a key could begin. -/
def openHere (t : Token) : Lex Unit := do
  let s ← get
  if s.flow = 0 then
    if !s.allowKey then fail
    if ← openBlock s.cursor.column then emit t

def toBoundary : Lex Unit := do
  unwind (-1)
  dropKey
  setAllowKey false

def insertAt (place : Nat) (t : Token) : Lex Unit :=
  modify fun s => { s with tokens := s.tokens.insertIdxIfInBounds place t }

/-- The colon after a key, or one without a key. -/
def fetchValue : Lex Unit := do
  let s ← get
  match s.keys.lookup s.flow with
  | some k =>
    set { s with keys := s.keys.filter fun k => k.1 != s.flow }
    insertAt k.place .key
    if s.flow = 0 then
      if ← openBlock k.column then insertAt k.place .blockMappingStart
    setAllowKey false
  | none =>
    openHere .blockMappingStart
    setAllowKey (s.flow == 0)
    dropKey
  emitMark .value 1

def openFlow (t : Token) : Lex Unit := do
  saveKey
  modify fun s => { s with flow := s.flow + 1 }
  setAllowKey true
  emitMark t 1

def closeFlow (t : Token) : Lex Unit := do
  dropKey
  if (← get).flow = 0 then fail
  modify fun s => { s with flow := s.flow - 1 }
  setAllowKey false
  emitMark t 1

/-- A token that may begin a key. -/
def fetchNodePart (s : Scan Token) : Lex Unit := do
  saveKey
  setAllowKey false
  emit (← scan s)

/-- A token after which a key can begin. -/
def fetchBlockScalar (folded : Bool) : Lex Unit := do
  setAllowKey true
  dropKey
  let indent := (← get).indent
  emit (← scan (Scan.blockScalar folded indent))

def fetchPlain : Lex Unit := do
  saveKey
  let s ← get
  let (t, broken) ← scan (Scan.plainScalar (s.flow != 0) s.indent)
  setAllowKey broken
  emit t

/-- Skips what stands between tokens. A key can begin on a new line. -/
def toNextToken : (fuel : Nat) → Lex Unit
  | 0 => pure ()
  | n + 1 => do
    if (← get).cursor.index = 0 ∧ (← peek 0) = '\uFEFF' then scan (Scan.forward 1)
    scan (Scan.skipWhile (· == ' '))
    if (← peek 0) = '#' then scan (Scan.skipWhile fun c => !isBreakOrEnd c)
    let ending ← scan Scan.lineBreak
    if !ending.isEmpty then
      if (← get).flow = 0 then setAllowKey true
      toNextToken n

def marks : List Char :=
  ['-', '?', ':', ',', '[', ']', '\x7b', '\x7d', '#', '&', '*', '!', '|', '>', '\'', '"', '%', '@',
    '\x60']

def startsPlain (inFlow : Bool) (c next : Char) : Bool :=
  (!isBlankOrEnd c && !marks.contains c) ||
    (!isBlankOrEnd next && (c == '-' || (!inFlow && (c == '?' || c == ':'))))

/-- Fetches a token, with those that come with it; whether it was the last one. -/
def fetch : Lex Bool := do
  toNextToken (← scan Scan.fuel)
  dropStale
  unwind (← get).cursor.column
  let s ← get
  let c := s.cursor.peek 0
  let next := s.cursor.peek 1
  let inFlow := s.flow != 0
  let first := s.cursor.column == 0
  if c = endMark then
    toBoundary
    modify fun s => { s with keys := [] }
    emit .streamEnd
    return true
  if c = '%' ∧ first then
    toBoundary
    emit (← scan Scan.directive)
  else if first && s.cursor.atMark '-' then
    toBoundary
    emitMark .documentStart 3
  else if first && s.cursor.atMark '.' then
    toBoundary
    emitMark .documentEnd 3
  else if c = '[' then openFlow .flowSequenceStart
  else if c = '\x7b' then openFlow .flowMappingStart
  else if c = ']' then closeFlow .flowSequenceEnd
  else if c = '\x7d' then closeFlow .flowMappingEnd
  else if c = ',' then
    setAllowKey true
    dropKey
    emitMark .flowEntry 1
  else if c == '-' && isBlankOrEnd next then
    openHere .blockSequenceStart
    setAllowKey true
    dropKey
    emitMark .blockEntry 1
  else if c == '?' && (inFlow || isBlankOrEnd next) then
    openHere .blockMappingStart
    setAllowKey (!inFlow)
    dropKey
    emitMark .key 1
  else if c == ':' && (inFlow || isBlankOrEnd next) then fetchValue
  else if c = '*' then fetchNodePart do return .alias (← Scan.anchorName)
  else if c = '&' then fetchNodePart do return .anchor (← Scan.anchorName)
  else if c = '!' then fetchNodePart Scan.tag
  else if c == '|' && !inFlow then fetchBlockScalar false
  else if c == '>' && !inFlow then fetchBlockScalar true
  else if c = '\'' then fetchNodePart (Scan.quotedScalar false)
  else if c = '"' then fetchNodePart (Scan.quotedScalar true)
  else if startsPlain inFlow c next then fetchPlain
  else fail
  return false

def fetchAll : (fuel : Nat) → Lex Unit
  | 0 => pure ()
  | n + 1 => do if !(← fetch) then fetchAll n

end Lexer

def tokens (text : List Char) : Except Error (List Token) := do
  if !text.all isAllowed then throw .malformed
  let (_, s) ← (Lexer.fetchAll (text.length + 2)).run (.start text)
  return s.tokens.toList

end RasterTensor.Yaml
