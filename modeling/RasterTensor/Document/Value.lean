import RasterTensor.Binary.Format
import RasterTensor.Choice
import RasterTensor.Document.Moment

/-!
# Values of configuration documents

What a configuration document or a caller can supply: scalars, sequences, and mappings that
keep the order in which their keys first appeared. Two keys are the same when they are equal as
values, and numbers of all kinds are compared by what they denote.
-/

namespace RasterTensor.Document

open Binary

inductive Value where
  | null
  | bool (b : Bool)
  | int (i : Int)
  | float (x : Binary64)
  | text (s : String)
  | bytes (content : List UInt8)
  | date (d : Date)
  | moment (t : Moment)
  | choice (c : Choice)
  | list (items : List Value)
  | tuple (items : List Value)
  | set (members : List Value)
  | mapping (entries : List (Value × Value))
  deriving Inhabited

/-- What a number denotes: an odd integer times a power of two, zero, or an infinity. -/
inductive Magnitude where
  | exact (odd : Int) (exponent : Int)
  | infinite (negative : Bool)
  deriving DecidableEq

def Magnitude.ofFinite (negative : Bool) (m : Nat) (e : Int) : Magnitude :=
  if m = 0 then .exact 0 0
  else
    let twos := (m ^^^ (m - 1)).log2
    .exact (signed negative (m >>> twos)) (e + twos)

namespace Value

def kind : Value → String
  | .null => "NoneType"
  | .bool _ => "bool"
  | .int _ => "int"
  | .float _ => "float"
  | .text _ => "str"
  | .bytes _ => "bytes"
  | .date _ => "date"
  | .moment _ => "datetime"
  | .choice c => c.list.title
  | .list _ => "list"
  | .tuple _ => "tuple"
  | .set _ => "set"
  | .mapping _ => "dict"

/-- What a number or a truth value denotes; there is no answer for other values and for the
float that is not a number. -/
def magnitude? : Value → Option Magnitude
  | .bool b => some (.ofFinite false b.toNat 0)
  | .int i => some (.ofFinite (i < 0) i.natAbs 0)
  | .float x =>
    match x.number with
    | .finite s m e => some (.ofFinite s m e)
    | .infinite s => some (.infinite s)
    | .nan => none
  | _ => none

/-- The part that keeps a value from being a key. -/
def obstacle? : Value → Option Value
  | .tuple items => firstObstacle? items
  | .list items => some (.list items)
  | .set members => some (.set members)
  | .mapping entries => some (.mapping entries)
  | _ => none
where
  firstObstacle? : List Value → Option Value
    | [] => none
    | v :: rest =>
      match v.obstacle? with
      | some part => some part
      | none => firstObstacle? rest

def isKey (v : Value) : Bool := v.obstacle?.isNone

/-- Equality of keys. -/
def sameKey : Value → Value → Bool
  | .null, .null => true
  | .text s, .text t => s == t
  | .bytes s, .bytes t => s == t
  | .date d, .date e => d == e
  | .moment t, .moment u => t == u
  | .choice c, .choice d => c.name == d.name
  | .tuple xs, .tuple ys => sameKeys xs ys
  | x, y =>
    match x.magnitude?, y.magnitude? with
    | some m, some n => m == n
    | _, _ => false
where
  sameKeys : List Value → List Value → Bool
    | [], [] => true
    | x :: xs, y :: ys => x.sameKey y && sameKeys xs ys
    | _, _ => false

def isNull : Value → Bool
  | .null => true
  | _ => false

end Value

/-- The entries of a mapping, in the order in which the keys first appeared. -/
abbrev Entries := List (Value × Value)

namespace Entries

def find? (key : Value) : Entries → Option Value
  | [] => none
  | (k, v) :: rest => if k.sameKey key then some v else find? key rest

/-- Writes an entry. A key that is there keeps its place and its spelling. -/
def put (key value : Value) : Entries → Entries
  | [] => [(key, value)]
  | (k, v) :: rest => if k.sameKey key then (k, value) :: rest else (k, v) :: put key value rest

def putNew (key value : Value) (entries : Entries) : Entries :=
  if (find? key entries).isSome then entries else entries ++ [(key, value)]

def ofList (pairs : List (Value × Value)) : Entries :=
  pairs.foldl (fun entries (k, v) => put k v entries) []

def field? (name : String) (entries : Entries) : Option Value := find? (.text name) entries

/-- The entries that are left when all those of `later` are written over those of `entries`. -/
def overlay (entries later : Entries) : Entries :=
  later.foldl (fun acc (k, v) => put k v acc) entries

theorem find?_put_self (key value : Value) (entries : Entries) (h : key.sameKey key = true) :
    find? key (put key value entries) = some value := by
  induction entries with
  | nil => simp [put, find?, h]
  | cons entry rest ih =>
    obtain ⟨k, v⟩ := entry
    by_cases hk : k.sameKey key = true
    · simp [put, find?, hk]
    · simp [put, find?, hk, ih]

end Entries

end RasterTensor.Document
