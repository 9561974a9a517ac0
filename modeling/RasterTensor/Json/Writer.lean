import RasterTensor.Document.Render

/-!
# Writing JSON

Two spaces of indentation for each level, the keys of a mapping in order, and nothing beyond
ASCII. Keys of a mapping are compared before they are written as text, so keys of kinds that
have no common order are refused. Sequences and mappings are followed down to a depth that is left
to the place that writes.
-/

namespace RasterTensor.Json

open Binary Document Text

inductive WriteError where
  | unordered (left right : String)
  | keyKind (kind : String)
  | valueKind (kind : String)
  | integerTooLong
  | nested
  deriving DecidableEq

/-- Whether the first number is less than the second. -/
def numberBelow (x y : Number) : Bool :=
  match x.sub y with
  | .finite s m _ => s && m != 0
  | .infinite s => s
  | .nan => false

/-- The number that a value denotes, a truth value being zero or one. -/
def number? : Value → Option Number
  | .bool b => some (.ofNat b.toNat)
  | .int i => some (.ofInt i)
  | .float x => some x.number
  | _ => none

def textBelow (s t : List Char) : Bool := s < t

def keyBelow (x y : Value) : Except WriteError Bool :=
  match x, y with
  | .text s, .text t => .ok (textBelow s.toList t.toList)
  | .bytes s, .bytes t => .ok (decide (s < t))
  | .tuple xs, .tuple ys => tupleBelow xs ys
  | x, y =>
    match number? x, number? y with
    | some m, some n => .ok (numberBelow m n)
    | _, _ => .error (.unordered x.kind y.kind)
where
  tupleBelow : List Value → List Value → Except WriteError Bool
    | [], ys => .ok !ys.isEmpty
    | _, [] => .ok false
    | x :: xs, y :: ys => if x.sameKey y then tupleBelow xs ys else keyBelow x y

/-- The length of the run at the head of a list: descending when its second member is below its
first, and otherwise without a member below the one before it. -/
def runLength {α ε : Type} (below : α → α → Except ε Bool) : List α → Except ε (Bool × Nat)
  | x :: y :: rest => do
    let down ← below y x
    return (down, ← extend down y 2 rest)
  | xs => .ok (false, xs.length)
where
  extend (down : Bool) (last : α) (n : Nat) : List α → Except ε Nat
    | [] => .ok n
    | z :: rest => do
      if (← below z last) == down then extend down z (n + 1) rest else return n

/-- The position in a sorted array behind all members that are not above `x`, by halving the
range from `low` to `high`. -/
def insertionPoint {α ε : Type} (below : α → α → Except ε Bool) (sorted : Array α) (x : α)
    (low high : Nat) : Except ε Nat :=
  if _h : low < high then do
    let mid := (low + high) / 2
    match sorted[mid]? with
    | none => return low
    | some y =>
      if ← below x y then insertionPoint below sorted x low mid
      else insertionPoint below sorted x (mid + 1) high
  else return low
  termination_by high - low

/-- A stable sort: the first run as it stands, then each further member inserted. -/
def sortBy {α ε : Type} (below : α → α → Except ε Bool) (xs : List α) : Except ε (List α) := do
  let (down, n) ← runLength below xs
  let run := if down then (xs.take n).reverse else xs.take n
  let sorted ← (xs.drop n).foldlM (fun sorted x => do
    let at' ← insertionPoint below sorted x 0 sorted.size
    return (sorted.toList.take at' ++ x :: sorted.toList.drop at').toArray) run.toArray
  return sorted.toList

def escapeChar (c : Char) : List Char :=
  match c with
  | '"' => ['\\', '"']
  | '\\' => ['\\', '\\']
  | '\n' => ['\\', 'n']
  | '\r' => ['\\', 'r']
  | '\t' => ['\\', 't']
  | '\x08' => ['\\', 'b']
  | '\x0c' => ['\\', 'f']
  | c =>
    let n := c.toNat
    if 0x20 ≤ n ∧ n < 0x7F then [c]
    else if n < 0x10000 then '\\' :: 'u' :: hexadecimal 4 n
    else
      let m := n - 0x10000
      '\\' :: 'u' :: hexadecimal 4 (0xD800 + m / 0x400) ++
        '\\' :: 'u' :: hexadecimal 4 (0xDC00 + m % 0x400)

def stringText (s : String) : List Char := '"' :: s.toList.flatMap escapeChar ++ ['"']

def integerChars (i : Int) : Except WriteError (List Char) :=
  if i.natAbs < Decimal.integerLimit then .ok (integerText i).toList
  else .error .integerTooLong

def keyText : Value → Except WriteError String
  | .text s => .ok s
  | .float x => .ok (Decimal.render .report x)
  | .bool b => .ok (if b then "true" else "false")
  | .null => .ok "null"
  | .int i => (integerChars i).map .ofList
  | v => .error (.keyKind v.kind)

def newline (level : Nat) : List Char := '\n' :: List.replicate (2 * level) ' '

/-- Members on lines of their own at `level + 1`, between two marks. -/
def block (opening closing : Char) (level : Nat) (members : List (List Char)) : List Char :=
  if members.isEmpty then [opening, closing]
  else
    opening :: (List.intercalate [','] (members.map (newline (level + 1) ++ ·))
      ++ newline level ++ [closing])

mutual

/-- The text of a value whose first line stands at `level`, with sequences and mappings nested at
most `depth` deep. -/
def write (depth level : Nat) : Value → Except WriteError (List Char)
  | .null => .ok "null".toList
  | .bool b => .ok (if b then "true" else "false").toList
  | .int i => integerChars i
  | .float x => .ok (Decimal.render .report x).toList
  | .text s => .ok (stringText s)
  | .choice c => .ok (stringText c.name)
  | .list items | .tuple items => do
    if depth = 0 then throw .nested
    return block '[' ']' level (← writeAll (depth - 1) (level + 1) items)
  | .mapping entries => do
    if depth = 0 then throw .nested
    let parts := writeEntries (depth - 1) (level + 1) entries
    let sorted ← sortBy (fun x y => keyBelow x.1 y.1) parts
    let members ← sorted.mapM fun (key, part) => do
      let name ← keyText key
      return stringText name ++ ':' :: ' ' :: (← part)
    return block '\x7b' '\x7d' level members
  | v => .error (.valueKind v.kind)

def writeAll (depth level : Nat) : List Value → Except WriteError (List (List Char))
  | [] => .ok []
  | v :: rest => do return (← write depth level v) :: (← writeAll depth level rest)

def writeEntries (depth level : Nat) :
    List (Value × Value) → List (Value × Except WriteError (List Char))
  | [] => []
  | (k, v) :: rest => (k, write depth level v) :: writeEntries depth level rest

end

def WriteError.message : WriteError → String
  | .unordered left right =>
    "'<' not supported between instances of '" ++ left ++ "' and '" ++ right ++ "'"
  | .keyKind kind => "keys must be str, int, float, bool or None, not " ++ kind
  | .valueKind kind => "Object of type " ++ kind ++ " is not JSON serializable"
  | .integerTooLong =>
    "Exceeds the limit (" ++ naturalText Decimal.maxIntegerDigits ++
      " digits) for integer string conversion; use sys.set_int_max_str_digits() " ++
      "to increase the limit"
  | .nested => "maximum recursion depth exceeded"

end RasterTensor.Json
