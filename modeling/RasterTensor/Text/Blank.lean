/-!
# White space

The white space of Unicode with the four information separators, and the removal of it from
both ends of a text.
-/

namespace RasterTensor.Text

def wideBlanks : List Nat :=
  [0x85, 0xA0, 0x1680, 0x2000, 0x2001, 0x2002, 0x2003, 0x2004, 0x2005, 0x2006, 0x2007, 0x2008,
    0x2009, 0x200A, 0x2028, 0x2029, 0x202F, 0x205F, 0x3000]

/-- The six characters of ASCII that move the print position without printing. -/
def isAsciiBlank (c : Char) : Bool :=
  c == ' ' || (9 ≤ c.toNat && c.toNat ≤ 13)

/-- White space, the information separators U+001C to U+001F included. -/
def isBlank (c : Char) : Bool :=
  isAsciiBlank c || (0x1C ≤ c.toNat && c.toNat ≤ 0x1F) || wideBlanks.contains c.toNat

/-- White space that may surround a numeral: the information separators may not. -/
def isNumeralBlank (c : Char) : Bool :=
  isAsciiBlank c || wideBlanks.contains c.toNat

/-- A list without the elements at both ends that satisfy `p`. -/
def trimBy {α : Type} (p : α → Bool) (xs : List α) : List α :=
  ((xs.dropWhile p).reverse.dropWhile p).reverse

def strip (s : String) : String := .ofList (trimBy isBlank s.toList)

def isBlankText (s : String) : Bool := s.toList.all isBlank

end RasterTensor.Text
