import RasterTensor.Binary.Number

/-!
# Binary interchange formats

A format of fixed width has an exponent field and a significand field with a hidden leading
bit. `Format.encode` rounds an exact number to the nearest number of the format, ties to even,
and `Format.decode` reads the number that a bit pattern stands for.
-/

namespace RasterTensor.Binary

/-- `precision` counts the hidden bit. -/
structure Format where
  precision : Nat
  exponentBits : Nat
  deriving DecidableEq

namespace Format

def half : Format := ⟨11, 5⟩
def single : Format := ⟨24, 8⟩
def double : Format := ⟨53, 11⟩

/-- The exponent of the least positive number of the format. -/
def leastExponent (f : Format) : Int :=
  3 - (1 <<< (f.exponentBits - 1) : Nat) - (f.precision : Int)

def signBit (f : Format) : Nat := 1 <<< (f.precision - 1 + f.exponentBits)

/-- The bit pattern of positive infinity, above those of all positive finite numbers. -/
def infinity (f : Format) : Nat := (1 <<< f.exponentBits - 1) <<< (f.precision - 1)

/-- The bit pattern that stands for every result that is not a number. -/
def quietNan (f : Format) : Nat := f.infinity + 1 <<< (f.precision - 2)

def withSign (f : Format) (negative : Bool) (magnitude : Nat) : Nat :=
  if negative then f.signBit + magnitude else magnitude

def decode (f : Format) (bits : Nat) : Number :=
  let negative := bits &&& f.signBit != 0
  let magnitude := bits % f.signBit
  let field := magnitude >>> (f.precision - 1)
  let fraction := magnitude % (1 <<< (f.precision - 1))
  if field = 1 <<< f.exponentBits - 1 then
    if fraction = 0 then .infinite negative else .nan
  else if field = 0 then .finite negative fraction f.leastExponent
  else .finite negative (fraction + 1 <<< (f.precision - 1)) (f.leastExponent + field - 1)

/-- The magnitude bits of `m * 2 ^ e` rounded to the format. A significand that rounds up to
the next power of two carries into the exponent field by plain addition. -/
def magnitude (f : Format) (m : Nat) (e : Int) : Nat :=
  if m = 0 then 0
  else
    let least := f.leastExponent
    let unit := max least (e + m.log2 + 1 - f.precision)
    let rounded :=
      if unit ≤ e then m <<< (e - unit).toNat else shiftNearest m (unit - e).toNat
    min f.infinity (((unit - least).toNat <<< (f.precision - 1)) + rounded)

/-- The bit pattern of the nearest number of the format. -/
def encode (f : Format) : Number → Nat
  | .nan => f.quietNan
  | .infinite s => f.withSign s f.infinity
  | .finite s m e => f.withSign s (f.magnitude m e)

/-- `± num / den` as a number with enough digits, and a last digit that records a remainder,
for `encode` to round it as it would round the quotient itself. -/
def quotient (f : Format) (negative : Bool) (num den : Nat) : Number :=
  let shift : Int := (f.precision : Int) + 2 + den.log2 - num.log2
  let num' := num <<< shift.toNat
  let den' := den <<< (-shift).toNat
  let q := num' / den'
  .finite negative (2 * q + if num' % den' = 0 then 0 else 1) (-shift - 1)

/-- The quotient of two numbers of the format, ready to be encoded. A division by zero is an
infinity with the sign of the quotient. -/
def divide (f : Format) : Number → Number → Number
  | .nan, _ | _, .nan => .nan
  | .infinite _, .infinite _ => .nan
  | .infinite s, .finite t _ _ => .infinite (s ^^ t)
  | .finite s _ _, .infinite t => .finite (s ^^ t) 0 0
  | .finite s m e, .finite t n g =>
    if n = 0 then if m = 0 then .nan else .infinite (s ^^ t)
    else if m = 0 then .finite (s ^^ t) 0 0
    else
      match f.quotient (s ^^ t) m n with
      | .finite u q k => .finite u q (k + e - g)
      | x => x

end Format

/-- A number stored in 64 bits. -/
structure Binary64 where
  bits : UInt64
  deriving DecidableEq, Inhabited

/-- A number stored in 32 bits. -/
structure Binary32 where
  bits : UInt32
  deriving DecidableEq, Inhabited

namespace Binary64

def number (x : Binary64) : Number := Format.double.decode x.bits.toNat

def ofNumber (x : Number) : Binary64 := ⟨.ofNat (Format.double.encode x)⟩

def ofInt (i : Int) : Binary64 := ofNumber (.ofInt i)

def ofNat (n : Nat) : Binary64 := ofNumber (.ofNat n)

def add (x y : Binary64) : Binary64 := ofNumber (x.number.add y.number)
def sub (x y : Binary64) : Binary64 := ofNumber (x.number.sub y.number)
def mul (x y : Binary64) : Binary64 := ofNumber (x.number.mul y.number)
def div (x y : Binary64) : Binary64 := ofNumber (Format.double.divide x.number y.number)

instance : Add Binary64 := ⟨add⟩
instance : Sub Binary64 := ⟨sub⟩
instance : Mul Binary64 := ⟨mul⟩
instance : Div Binary64 := ⟨div⟩

def isNan (x : Binary64) : Bool := x.number.isNan
def isZero (x : Binary64) : Bool := x.number.isZero
def isFinite (x : Binary64) : Bool := x.number.isFinite

/-- One half, exactly. -/
def half : Binary64 := ofNumber (.finite false 1 (-1))

end Binary64

namespace Binary32

def number (x : Binary32) : Number := Format.single.decode x.bits.toNat

def ofNumber (x : Number) : Binary32 := ⟨.ofNat (Format.single.encode x)⟩

def ofInt (i : Int) : Binary32 := ofNumber (.ofInt i)

def ofNat (n : Nat) : Binary32 := ofNumber (.ofNat n)

/-- The nearest number of 32 bits. -/
def ofBinary64 (x : Binary64) : Binary32 := ofNumber x.number

def add (x y : Binary32) : Binary32 := ofNumber (x.number.add y.number)
def sub (x y : Binary32) : Binary32 := ofNumber (x.number.sub y.number)
def mul (x y : Binary32) : Binary32 := ofNumber (x.number.mul y.number)

instance : Add Binary32 := ⟨add⟩
instance : Sub Binary32 := ⟨sub⟩
instance : Mul Binary32 := ⟨mul⟩

def isNan (x : Binary32) : Bool := x.number.isNan
def isZero (x : Binary32) : Bool := x.number.isZero

end Binary32

end RasterTensor.Binary
