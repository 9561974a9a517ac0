import RasterTensor.Binary.Format

/-!
# Shortest decimals

The decimal with the fewest digits that still reads back as a given number of 64 bits, and of
those the nearest. All comparisons are between naturals.
-/

namespace RasterTensor.Decimal

open Binary

/-- The value `digits * 10 ^ exponent`. -/
structure Scaled where
  digits : Nat
  exponent : Int
  deriving DecidableEq

/-- A positive number with the interval of reals that round to it, in quarters of its last
binary digit: the number is `4 * significand` of them. -/
structure Interval where
  significand : Nat
  /-- The quarters from the lower end up to the number. -/
  below : Nat
  /-- The exponent of two that a quarter stands for. -/
  quarter : Int

/-- The interval of a positive finite number of a format. Its lower half is shorter at a power
of two, where the numbers below lie twice as close. -/
def Interval.of (f : Format) (m : Nat) (e : Int) : Interval :=
  ⟨m, if m = 1 <<< (f.precision - 1) ∧ f.leastExponent < e then 1 else 2, e - 2⟩

/-- `n` quarters divided by `10 ^ k`, as a numerator and a denominator. -/
def Interval.ratio (x : Interval) (k : Int) (n : Nat) : Nat × Nat :=
  ((n <<< x.quarter.toNat) * Nat.pow 10 (-k).toNat,
    (1 <<< (-x.quarter).toNat) * Nat.pow 10 k.toNat)

/-- Whether `c * 10 ^ k` rounds to the number. The ends do exactly when the significand is
even. -/
def Interval.contains (x : Interval) (k : Int) (c : Nat) : Bool :=
  let (low, den) := x.ratio k (4 * x.significand - x.below)
  let (high, _) := x.ratio k (4 * x.significand + 2)
  if x.significand % 2 = 0 then low ≤ c * den && c * den ≤ high
  else low < c * den && c * den < high

/-- The nearer of the number's two neighbours among the multiples of `10 ^ k` that round to it.
Of two equally near ones it is the even one. -/
def Interval.onGrid? (x : Interval) (k : Int) : Option Scaled :=
  let (num, den) := x.ratio k (4 * x.significand)
  let lower := num / den
  let rest := num - lower * den
  match x.contains k lower, x.contains k (lower + 1) with
  | false, false => none
  | true, false => some ⟨lower, k⟩
  | false, true => some ⟨lower + 1, k⟩
  | true, true =>
    if 2 * rest < den ∨ (2 * rest = den ∧ lower % 2 = 0) then some ⟨lower, k⟩
    else some ⟨lower + 1, k⟩

/-- The exponent of ten of the number's leading digit. -/
def Interval.leadingExponent (x : Interval) : Int :=
  let guess : Int := ((x.significand.log2 : Int) + 2 + x.quarter) * 30103 / 100000
  let atLeast (k : Int) : Bool :=
    let (num, den) := x.ratio k (4 * x.significand)
    den ≤ num
  if atLeast (guess + 1) then guess + 1 else if atLeast guess then guess else guess - 1

/-- The shortest decimal of a positive number. Seventeen digits always suffice. -/
def shortest (m : Nat) (e : Int) : Scaled :=
  let x := Interval.of .double m e
  let lead := x.leadingExponent
  let found := (List.range 17).findSome? fun (n : Nat) => x.onGrid? (lead - n)
  found.getD ⟨m, 0⟩

end RasterTensor.Decimal
