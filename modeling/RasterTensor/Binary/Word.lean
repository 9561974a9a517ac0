/-!
# Words

Integers of a fixed number of bits: which of them fit, which word an integer is stored as, and
which integer a word stands for in two's complement.
-/

namespace RasterTensor.Binary

def wordCount (bits : Nat) : Nat := Nat.pow 2 bits

def fitsUnsigned (bits : Nat) (i : Int) : Bool := 0 ≤ i && i < wordCount bits

def fitsSigned (bits : Nat) (i : Int) : Bool :=
  -(wordCount (bits - 1) : Int) ≤ i && i < wordCount (bits - 1)

/-- The word that an integer is stored as. Bits beyond the word are lost. -/
def wordOfInteger (bits : Nat) (i : Int) : Nat := (i % (wordCount bits : Int)).toNat

def integerOfWord (bits n : Nat) : Int :=
  if n < wordCount (bits - 1) then n else (n : Int) - wordCount bits

theorem wordOfInteger_lt (bits : Nat) (i : Int) : wordOfInteger bits i < wordCount bits := by
  have h : 0 < wordCount bits := Nat.pow_pos (by decide)
  have below := Int.emod_lt_of_pos i (Int.ofNat_lt.mpr h)
  unfold wordOfInteger
  omega

end RasterTensor.Binary
