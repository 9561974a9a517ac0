/-!
# Decimal digits of all scripts

Every script with decimal digits has its ten digits in a row, so the table holds the zeros
(general category Nd, Unicode 14).
-/

namespace RasterTensor.Text

/-- The zeros beyond ASCII. -/
def zeros : Array Nat := #[
  0x660, 0x6F0, 0x7C0, 0x966, 0x9E6, 0xA66, 0xAE6, 0xB66, 0xBE6, 0xC66, 0xCE6, 0xD66, 0xDE6,
  0xE50, 0xED0, 0xF20, 0x1040, 0x1090, 0x17E0, 0x1810, 0x1946, 0x19D0, 0x1A80, 0x1A90, 0x1B50,
  0x1BB0, 0x1C40, 0x1C50, 0xA620, 0xA8D0, 0xA900, 0xA9D0, 0xA9F0, 0xAA50, 0xABF0, 0xFF10,
  0x104A0, 0x10D30, 0x11066, 0x110F0, 0x11136, 0x111D0, 0x112F0, 0x11450, 0x114D0, 0x11650,
  0x116C0, 0x11730, 0x118E0, 0x11950, 0x11C50, 0x11D50, 0x11DA0, 0x16A60, 0x16AC0, 0x16B50,
  0x1D7CE, 0x1D7D8, 0x1D7E2, 0x1D7EC, 0x1D7F6, 0x1E140, 0x1E2F0, 0x1E950, 0x1FBF0
]

def digitValue? (c : Char) : Option Nat :=
  let n := c.toNat
  if n < 0x80 then if c.isDigit then some (n - 48) else none
  else zeros.findSome? fun z => if z ≤ n ∧ n < z + 10 then some (n - z) else none

def asciiDigit? (c : Char) : Option Nat :=
  if c.isDigit then some (c.toNat - 48) else none

def decimal (n : Nat) : List Char := Nat.toDigits 10 n

def naturalText (n : Nat) : String := .ofList (decimal n)

def integerText (i : Int) : String :=
  .ofList (if i < 0 then '-' :: decimal i.natAbs else decimal i.natAbs)

/-- The lower-case hexadecimal digits of `n`, at least `width` of them. -/
def hexadecimal (width n : Nat) : List Char :=
  let digits := Nat.toDigits 16 n
  List.replicate (width - digits.length) '0' ++ digits

/-- The value of an ASCII hexadecimal digit of either case. -/
def hexValue? (c : Char) : Option Nat :=
  let n := c.toNat
  if 48 ≤ n ∧ n ≤ 57 then some (n - 48)
  else if 65 ≤ n ∧ n ≤ 70 then some (n - 55)
  else if 97 ≤ n ∧ n ≤ 102 then some (n - 87)
  else none

end RasterTensor.Text
