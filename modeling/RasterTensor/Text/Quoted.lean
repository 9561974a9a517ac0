import RasterTensor.Text.Digit
import RasterTensor.Text.Printable

/-!
# Quoted text in messages

A text stands in single quotes, or in double quotes when it holds a single quote and no double
one. The backslash, the quote, line ends, tabs and whatever is not printable are escaped.
-/

namespace RasterTensor.Text

def quoteMark (cs : List Char) : Char :=
  if cs.contains '\'' && !cs.contains '"' then '"' else '\''

def quoteChar (mark c : Char) : List Char :=
  if c = mark ∨ c = '\\' then ['\\', c]
  else if c = '\n' then ['\\', 'n']
  else if c = '\r' then ['\\', 'r']
  else if c = '\t' then ['\\', 't']
  else if isPrintable c then [c]
  else if c.toNat ≤ 0xFF then '\\' :: 'x' :: hexadecimal 2 c.toNat
  else if c.toNat ≤ 0xFFFF then '\\' :: 'u' :: hexadecimal 4 c.toNat
  else '\\' :: 'U' :: hexadecimal 8 c.toNat

def quoted (s : String) : String :=
  let mark := quoteMark s.toList
  .ofList (mark :: s.toList.flatMap (quoteChar mark) ++ [mark])

/-- Bytes in quotes, with a leading `b`: printable ASCII stands for itself. -/
def quotedBytes (bytes : List UInt8) : String :=
  let cs := bytes.map fun b => Char.ofNat b.toNat
  let mark := quoteMark cs
  let body := cs.flatMap fun c =>
    if c.toNat < 0x7F then quoteChar mark c else '\\' :: 'x' :: hexadecimal 2 c.toNat
  .ofList ('b' :: mark :: body ++ [mark])

/-- Members in brackets, with a comma and a space between them. -/
def commaList (parts : List String) : String := ", ".intercalate parts

end RasterTensor.Text
