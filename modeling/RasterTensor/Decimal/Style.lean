import RasterTensor.Decimal.Shortest
import RasterTensor.Text.Digit

/-!
# Numbers as text

The layout of the shortest decimal: positional while the leading digit's exponent of ten is
between -4 and 15, and with an exponent of at least two digits otherwise.
-/

namespace RasterTensor.Decimal

open Binary

structure Style where
  nan : String
  infinity : String

namespace Style

def message : Style := ⟨"nan", "inf"⟩

def report : Style := ⟨"NaN", "Infinity"⟩

end Style

/-- The digits without trailing zeros, with the exponent raised by their number. -/
def trimZeros (digits : List Char) (exponent : Int) : List Char × Int :=
  let kept := (digits.reverse.dropWhile (· == '0')).reverse
  (kept, exponent + (digits.length - kept.length : Nat))

def layOut (x : Scaled) : List Char :=
  let (digits, exponent) := trimZeros (Text.decimal x.digits) x.exponent
  let count := digits.length
  /- The number of digits before the point. -/
  let point := exponent + count
  if -3 ≤ point ∧ point ≤ 16 then
    if point ≤ 0 then '0' :: '.' :: (List.replicate (-point).toNat '0' ++ digits)
    else if count ≤ point then digits ++ List.replicate (point.toNat - count) '0' ++ ['.', '0']
    else digits.take point.toNat ++ '.' :: digits.drop point.toNat
  else
    let power := (point - 1).natAbs
    let powerDigits := if power < 10 then ['0'] ++ Text.decimal power else Text.decimal power
    let fraction := if count ≤ 1 then [] else '.' :: digits.drop 1
    digits.take 1 ++ fraction ++ 'e' :: (if point - 1 < 0 then '-' else '+') :: powerDigits

def render (style : Style) (x : Binary64) : String :=
  match x.number with
  | .nan => style.nan
  | .infinite s => if s then "-" ++ style.infinity else style.infinity
  | .finite s m e =>
    let body := if m = 0 then ['0', '.', '0'] else layOut (shortest m e)
    .ofList (if s then '-' :: body else body)

end RasterTensor.Decimal
