/-!
# Binary numbers, exactly

A finite number is a sign, a natural significand and a power of two. Sums, differences and
products of such numbers are exact here; rounding is a separate step, made once, when a number
is stored in a format of fixed width.
-/

namespace RasterTensor.Binary

/-- A floating-point datum: `finite negative m e` stands for `± m * 2 ^ e`. -/
inductive Number where
  | nan
  | infinite (negative : Bool)
  | finite (negative : Bool) (significand : Nat) (exponent : Int)
  deriving DecidableEq

/-- `m / 2 ^ k` to the nearest natural number, a tie to the even neighbour. -/
def shiftNearest (m k : Nat) : Nat :=
  let quotient := m >>> k
  let remainder := m - (quotient <<< k)
  if 2 * remainder > 1 <<< k ∨ (2 * remainder = 1 <<< k ∧ quotient % 2 = 1) then quotient + 1
  else quotient

/-- An integer from its sign and its absolute value. -/
def signed (negative : Bool) (m : Nat) : Int :=
  if negative then -(m : Int) else m

@[simp] theorem signed_zero (negative : Bool) : signed negative 0 = 0 := by
  cases negative <;> rfl

namespace Number

def ofInt (i : Int) : Number := .finite (i < 0) i.natAbs 0

def ofNat (n : Nat) : Number := .finite false n 0

def isZero : Number → Bool
  | .finite _ 0 _ => true
  | _ => false

def isNan : Number → Bool
  | .nan => true
  | _ => false

def isFinite : Number → Bool
  | .finite _ _ _ => true
  | _ => false

def neg : Number → Number
  | .nan => .nan
  | .infinite s => .infinite !s
  | .finite s m e => .finite (!s) m e

/-- The exact sum. A zero sum is negative only when both terms are. -/
def add : Number → Number → Number
  | .nan, _ | _, .nan => .nan
  | .infinite s, .infinite t => if s = t then .infinite s else .nan
  | .infinite s, .finite _ _ _ | .finite _ _ _, .infinite s => .infinite s
  | .finite s m e, .finite t n f =>
    let g := min e f
    let total := signed s (m <<< (e - g).toNat) + signed t (n <<< (f - g).toNat)
    .finite (if total = 0 then s && t else total < 0) total.natAbs g

def sub (x y : Number) : Number := x.add y.neg

def mul : Number → Number → Number
  | .nan, _ | _, .nan => .nan
  | .infinite s, .infinite t => .infinite (s ^^ t)
  | .infinite s, .finite t n _ | .finite t n _, .infinite s =>
    if n = 0 then .nan else .infinite (s ^^ t)
  | .finite s m e, .finite t n f => .finite (s ^^ t) (m * n) (e + f)

/-- The integer part of a finite number, with the sign kept. -/
def truncate? : Number → Option Int
  | .finite s m e => some (signed s (if 0 ≤ e then m <<< e.toNat else m >>> (-e).toNat))
  | _ => none

/-- The nearest integer of a finite number, a tie to the even neighbour. -/
def nearest? : Number → Option Int
  | .finite s m e =>
    some (signed s (if 0 ≤ e then m <<< e.toNat else shiftNearest m (-e).toNat))
  | _ => none

/-- The greatest integer not above a finite number. -/
def floor? : Number → Option Int
  | .finite s m e =>
    if 0 ≤ e then some (signed s (m <<< e.toNat))
    else some (signed s m / ((1 <<< (-e).toNat : Nat) : Int))
  | _ => none

def isInteger : Number → Bool
  | .finite _ m e => 0 ≤ e || (m >>> (-e).toNat) <<< (-e).toNat == m
  | _ => false

end Number

end RasterTensor.Binary
