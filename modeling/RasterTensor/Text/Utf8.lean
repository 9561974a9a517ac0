/-!
# Text from bytes

UTF-8 is read strictly: no surrogates, no overlong forms, nothing beyond U+10FFFF. A refusal
names the bytes of the longest sequence that could still have become a character.
-/

namespace RasterTensor.Text

inductive Utf8Fault where
  | invalidStart
  | invalidContinuation
  | unexpectedEnd
  deriving DecidableEq

/-- Why a byte string is no text: the position, the bytes at fault and the kind of fault. -/
structure Utf8Error where
  position : Nat
  bytes : List UInt8
  fault : Utf8Fault
  deriving DecidableEq

/-- How many tail bytes a lead byte asks for, and the range of the first of them. -/
def tailOf (lead : UInt8) : Option (Nat × UInt8 × UInt8) :=
  if 0xC2 ≤ lead ∧ lead ≤ 0xDF then some (1, 0x80, 0xBF)
  else if lead = 0xE0 then some (2, 0xA0, 0xBF)
  else if lead = 0xED then some (2, 0x80, 0x9F)
  else if 0xE1 ≤ lead ∧ lead ≤ 0xEF then some (2, 0x80, 0xBF)
  else if lead = 0xF0 then some (3, 0x90, 0xBF)
  else if 0xF1 ≤ lead ∧ lead ≤ 0xF3 then some (3, 0x80, 0xBF)
  else if lead = 0xF4 then some (3, 0x80, 0x8F)
  else none

/-- The tail bytes at the head of a list, as many as `count` asks for and the ranges allow. -/
def takeTail : Nat → UInt8 → UInt8 → List UInt8 → List UInt8
  | 0, _, _, _ => []
  | _, _, _, [] => []
  | n + 1, low, high, b :: rest =>
    if low ≤ b ∧ b ≤ high then b :: takeTail n 0x80 0xBF rest else []

def assemble (lead : UInt8) (tail : List UInt8) : Char :=
  let head := match tail.length with
    | 1 => lead.toNat % 0x20
    | 2 => lead.toNat % 0x10
    | _ => lead.toNat % 0x08
  .ofNat (tail.foldl (fun n b => n * 64 + b.toNat % 64) head)

/-- The characters of the bytes from `position` on; `out` holds those before, reversed. -/
def decodeFrom (position : Nat) (out : List Char) : List UInt8 → Except Utf8Error (List Char)
  | [] => .ok out.reverse
  | b :: rest =>
    if b < 0x80 then decodeFrom (position + 1) (Char.ofNat b.toNat :: out) rest
    else
      match tailOf b with
      | none => .error ⟨position, [b], .invalidStart⟩
      | some (count, low, high) =>
        let tail := takeTail count low high rest
        if tail.length = count then
          decodeFrom (position + 1 + count) (assemble b tail :: out) (rest.drop count)
        else if tail.length = rest.length then .error ⟨position, b :: tail, .unexpectedEnd⟩
        else .error ⟨position, b :: tail, .invalidContinuation⟩
  termination_by bytes => bytes.length
  decreasing_by all_goals simp only [List.length_drop, List.length_cons]; omega

def decodeUtf8 (bytes : ByteArray) : Except Utf8Error (List Char) :=
  decodeFrom 0 [] bytes.toList

/-- Line ends of all three kinds as line feeds. -/
def unifyLineEnds : List Char → List Char
  | [] => []
  | '\r' :: '\n' :: rest => '\n' :: unifyLineEnds rest
  | c :: rest => (if c = '\r' then '\n' else c) :: unifyLineEnds rest

end RasterTensor.Text
