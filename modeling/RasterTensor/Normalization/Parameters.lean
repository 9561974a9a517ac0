import RasterTensor.Failure

/-!
# Normalization parameters

An affine map for each of the three channels, with the range of samples that it accepts. A
sample `v` becomes `(v - offset) * scale`.
-/

namespace RasterTensor

open Binary Document

structure PerChannel (α : Type) where
  red : α
  green : α
  blue : α
  deriving DecidableEq

namespace PerChannel

def all {α : Type} (a : α) : PerChannel α := ⟨a, a, a⟩

def toList {α : Type} (x : PerChannel α) : List α := [x.red, x.green, x.blue]

def ofList? {α : Type} : List α → Option (PerChannel α)
  | [r, g, b] => some ⟨r, g, b⟩
  | _ => none

def get {α : Type} (x : PerChannel α) : Fin 3 → α
  | 0 => x.red
  | 1 => x.green
  | 2 => x.blue

def ofFn {α : Type} (f : Fin 3 → α) : PerChannel α := ⟨f 0, f 1, f 2⟩

/-- The thing for the channel of a number; the numbers repeat after the third. -/
def getCyclic {α : Type} (x : PerChannel α) (c : Nat) : α := x.get (Fin.ofNat 3 c)

@[simp] theorem ofList?_toList {α : Type} (x : PerChannel α) : ofList? x.toList = some x := rfl

end PerChannel

/-- `low` and `high` bound the accepted samples, both included. With `swap` the channels are
read in reverse order. -/
structure Parameters where
  scale : PerChannel Binary64
  offset : PerChannel Binary64
  swap : Bool
  low : Int
  high : Int
  deriving DecidableEq

namespace Parameters

structure Fields where
  scale : Value := .tuple [.float (.ofInt 1), .float (.ofInt 1), .float (.ofInt 1)]
  offset : Value := .tuple [.float (.ofInt 0), .float (.ofInt 0), .float (.ofInt 0)]
  swap : Value := .bool false
  range : Value := .tuple [.int 0, .int 255]

/-- The members of a value as floats, in order. -/
def readFloats (v : Value) : Except CoercionError (List Binary64) := do
  (← v.members).mapM Value.toFloat

/-- Puts the parts together: three scales, none of them zero, three offsets, and a range that
has its ends in order. -/
def assemble (scale offset : List Binary64) (swap : Bool) (low high : Int) :
    Except Failure Parameters :=
  if low > high then Failure.raise (.emptyRange low high)
  else
    match PerChannel.ofList? scale, PerChannel.ofList? offset with
    | some scale, some offset => .ok { scale, offset, swap, low, high }
    | _, _ => .error (.entryCount scale.length offset.length)

def checkEntries (scale offset : List Binary64) : Except Failure Unit :=
  if scale.length ≠ 3 ∨ offset.length ≠ 3 then .error (.entryCount scale.length offset.length)
  else if scale.any Binary64.isZero then .error (.zeroScale scale)
  else .ok ()

def ofFields (fields : Fields) : Except Failure Parameters := do
  let scale ← readFloats fields.scale
  let offset ← readFloats fields.offset
  checkEntries scale offset
  let low ← (← fields.range.member 0).toInteger
  let high ← (← fields.range.member 1).toInteger
  assemble scale offset fields.swap.isTrue low high

def names : List String := ["scale", "offset", "swap_channels", "input_range"]

def ofArguments (arguments : Entries) : Except Failure Parameters := do
  for (key, _) in arguments do
    match key with
    | .text name =>
      if !names.contains name then
        throw (.unexpectedArgument "NormalizationParameters.__init__()" name)
    | _ => throw .argumentName
  let given (name : String) (default : Value) : Value :=
    (Entries.field? name arguments).getD default
  let fields : Fields := {}
  ofFields
    { scale := given "scale" fields.scale
      offset := given "offset" fields.offset
      swap := given "swap_channels" fields.swap
      range := given "input_range" fields.range }

def inverseScale (divisor : Binary64) (v : Value) : Except Failure Binary64 := do
  let product := divisor * (← v.toFloat)
  if product.isZero then throw .divisionByZero
  return .ofInt 1 / product

def scaledMean (divisor : Binary64) (v : Value) : Except Failure Binary64 := do
  return (← v.toFloat) * divisor

/-- Parameters that turn a sample `v` into `(v / divisor - mean) / deviation`. -/
def ofMeanAndDeviation (mean deviation divisor swap : Value) : Except Failure Parameters := do
  let divisor ← divisor.toFloat
  if divisor.isZero then throw .zeroDivisor
  let scale ← (← deviation.members).mapM (inverseScale divisor)
  let offset ← (← mean.members).mapM (scaledMean divisor)
  ofFields
    { scale := .tuple (scale.map .float)
      offset := .tuple (offset.map .float)
      swap }

/-- Parameters as the entries that they can be made from again. -/
def toEntries (p : Parameters) : Entries :=
  [(.text "scale", .list (p.scale.toList.map .float)),
    (.text "offset", .list (p.offset.toList.map .float)),
    (.text "swap_channels", .bool p.swap),
    (.text "input_range", .list [.int p.low, .int p.high])]

end Parameters

end RasterTensor
