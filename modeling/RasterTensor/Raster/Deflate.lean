import RasterTensor.Binary.Bytes
import RasterTensor.Binary.Checksum

/-!
# Compressed streams

A compressed stream is decoded step by step while its bytes arrive. It is asked for output up to
a given size, and stops when there is that much and more would be next, when it needs bytes that
have not arrived, when it is complete, or when it is corrupt. A symbol of which only a part has
arrived is read again from its start.
-/

namespace RasterTensor.Raster

open Binary

/-- A canonical code: how many symbols have a code of each length, and the symbols by length. -/
structure PrefixCode where
  counts : Array Nat
  symbols : Array Nat
  /-- The greatest length of a code. -/
  longest : Nat

namespace PrefixCode

def maxLength : Nat := 15

/-- The codes that are left free by given numbers of codes of the lengths from one on, if there
are not too many of them. -/
def unused? (counts : List Nat) : Option Nat :=
  counts.foldlM (fun free n => if n ≤ 2 * free then some (2 * free - n) else none) 1

/-- The code in which each symbol has a given length, zero for none. A code has to be complete,
except that `lenient` allows one with a single symbol of length one. A code without symbols is
allowed and fails when it is used. -/
def ofLengths? (lenient : Bool) (lengths : List Nat) : Option PrefixCode :=
  let indexed := lengths.zipIdx
  let ofLength (n : Nat) : List Nat := (indexed.filter fun x => x.1 == n).map Prod.snd
  let byLength := (List.range maxLength).map fun i => ofLength (i + 1)
  let counts := byLength.map List.length
  let longest := lengths.foldl max 0
  match unused? counts with
  | none => none
  | some free =>
    if longest ≠ 0 ∧ free ≠ 0 ∧ !(lenient && longest == 1) then none
    else some ⟨(0 :: counts).toArray, byLength.flatten.toArray, longest⟩

def fixedLiterals : PrefixCode :=
  (ofLengths? false (List.replicate 144 8 ++ List.replicate 112 9 ++ List.replicate 24 7 ++
    List.replicate 8 8)).getD ⟨#[], #[], 0⟩

def fixedDistances : PrefixCode :=
  (ofLengths? false (List.replicate 32 5)).getD ⟨#[], #[], 0⟩

end PrefixCode

namespace Deflate

inductive Stop where
  | starved
  | corrupt
  deriving DecidableEq

/-- A reader of bits; its state is the number of bits read before. -/
abbrev Bits (α : Type) := StateT Nat (Except Stop) α

def bit (source : ByteArray) : Bits Nat := do
  let position ← get
  if position / 8 < source.size then
    set (position + 1)
    return ((byteAt source (position / 8)).toNat >>> (position % 8)) % 2
  else throw .starved

/-- A number of so many bits, the least significant one first. -/
def bits (source : ByteArray) : Nat → Bits Nat
  | 0 => return 0
  | n + 1 => do
    let low ← bit source
    return low + 2 * (← bits source n)

def align : Bits Unit := modify fun position => (position + 7) / 8 * 8

/-- The symbol of a code that comes next, with `code` read so far. Of the codes of `length` bits
the least is `first`, and its symbol is at `index`. -/
def symbolFrom (source : ByteArray) (c : PrefixCode) :
    (fuel length code first index : Nat) → Bits Nat
  | 0, _, _, _, _ => throw .corrupt
  | fuel + 1, length, code, first, index => do
    let code := code + (← bit source)
    let count := c.counts.getD length 0
    if code < first + count then
      match c.symbols[index + (code - first)]? with
      | some symbol => return symbol
      | none => throw .corrupt
    else symbolFrom source c fuel (length + 1) (2 * code) (2 * (first + count)) (index + count)

/-- The next symbol. A code without symbols takes a bit to fail. -/
def symbol (source : ByteArray) (c : PrefixCode) : Bits Nat :=
  symbolFrom source c (max 1 c.longest) 1 0 0 0

def lengthBases : Array (Nat × Nat) :=
  #[(3, 0), (4, 0), (5, 0), (6, 0), (7, 0), (8, 0), (9, 0), (10, 0), (11, 1), (13, 1), (15, 1),
    (17, 1), (19, 2), (23, 2), (27, 2), (31, 2), (35, 3), (43, 3), (51, 3), (59, 3), (67, 4),
    (83, 4), (99, 4), (115, 4), (131, 5), (163, 5), (195, 5), (227, 5), (258, 0)]

def distanceBases : Array (Nat × Nat) :=
  #[(1, 0), (2, 0), (3, 0), (4, 0), (5, 1), (7, 1), (9, 2), (13, 2), (17, 3), (25, 3), (33, 4),
    (49, 4), (65, 5), (97, 5), (129, 6), (193, 6), (257, 7), (385, 7), (513, 8), (769, 8),
    (1025, 9), (1537, 9), (2049, 10), (3073, 10), (4097, 11), (6145, 11), (8193, 12), (12289, 12),
    (16385, 13), (24577, 13)]

def extended (source : ByteArray) (bases : Array (Nat × Nat)) (i : Nat) : Bits Nat := do
  match bases[i]? with
  | some (base, extra) => return base + (← bits source extra)
  | none => throw .corrupt

inductive Token where
  | literal (b : UInt8)
  | copy (length distance : Nat)
  | endOfBlock

def endSymbol : Nat := 256

/-- The next token of a coded block, after `produced` bytes of output. -/
def token (source : ByteArray) (literals distances : PrefixCode) (produced : Nat) :
    Bits Token := do
  let s ← symbol source literals
  if s < endSymbol then return .literal (.ofNat s)
  else if s = endSymbol then return .endOfBlock
  else
    let length ← extended source lengthBases (s - endSymbol - 1)
    let distance ← extended source distanceBases (← symbol source distances)
    if produced < distance then throw .corrupt
    return .copy length distance

/-- The order in which the lengths of the codes of lengths are given. -/
def lengthOrder : List Nat :=
  [16, 17, 18, 0, 8, 7, 9, 6, 10, 5, 11, 4, 12, 3, 13, 2, 14, 1, 15]

/-- `count` code lengths, in which runs are abbreviated. -/
def codeLengths (source : ByteArray) (c : PrefixCode) (count : Nat) :
    (fuel : Nat) → (out : List Nat) → Bits (List Nat)
  | 0, out => return out.reverse
  | fuel + 1, out => do
    if count ≤ out.length then return out.reverse
    let s ← symbol source c
    if s < 16 then codeLengths source c count fuel (s :: out)
    else
      let value ←
        if s = 16 then
          match out with
          | last :: _ => pure last
          | [] =>
            let _ ← bits source 2
            throw .corrupt
        else pure 0
      let run ←
        if s = 16 then do pure (3 + (← bits source 2))
        else if s = 17 then do pure (3 + (← bits source 3))
        else do pure (11 + (← bits source 7))
      if count < out.length + run then throw .corrupt
      codeLengths source c count fuel (List.replicate run value ++ out)

def checked : Option PrefixCode → Bits PrefixCode
  | some c => return c
  | none => throw .corrupt

def blockCodes (source : ByteArray) : Bits (PrefixCode × PrefixCode) := do
  let literalCount := 257 + (← bits source 5)
  let distanceCount := 1 + (← bits source 5)
  let lengthCount := 4 + (← bits source 4)
  if 286 < literalCount ∨ 30 < distanceCount then throw .corrupt
  let given ← (lengthOrder.take lengthCount).mapM fun i => do return (i, ← bits source 3)
  let lengths := (List.range 19).map fun i => (given.lookup i).getD 0
  let c ← checked (PrefixCode.ofLengths? false lengths)
  let total := literalCount + distanceCount
  let all ← codeLengths source c total total []
  if all.getD endSymbol 0 = 0 then throw .corrupt
  let literals ← checked (PrefixCode.ofLengths? true (all.take literalCount))
  let distances ← checked (PrefixCode.ofLengths? true (all.drop literalCount))
  return (literals, distances)

inductive Mode where
  | header
  | block
  | stored (left : Nat) (last : Bool)
  | coded (literals distances : PrefixCode) (last : Bool)
  | pending (token : Token) (literals distances : PrefixCode) (last : Bool)
  | trailer
  | complete
  /-- The stream asks for a dictionary, which nobody has. -/
  | dictionary

def readHeader (source : ByteArray) : Bits Mode := do
  let method ← bits source 8
  let flags ← bits source 8
  if (256 * method + flags) % 31 ≠ 0 then throw .corrupt
  if method % 16 ≠ 8 ∨ 7 < method / 16 then throw .corrupt
  if flags / 32 % 2 = 1 then
    let _ ← bits source 32
    return .dictionary
  return .block

def readBlock (source : ByteArray) : Bits Mode := do
  let last := (← bit source) == 1
  match ← bits source 2 with
  | 0 =>
    align
    let length ← bits source 16
    let complement ← bits source 16
    if length + complement ≠ 65535 then throw .corrupt
    return .stored length last
  | 1 => return .coded .fixedLiterals .fixedDistances last
  | 2 =>
    let (literals, distances) ← blockCodes source
    return .coded literals distances last
  | _ => throw .corrupt

/-- Reads the checksum of the output, the most significant byte first. -/
def readTrailer (source output : ByteArray) : Bits Mode := do
  align
  let start := (← get) / 8
  let _ ← bits source 32
  if wordFromTop source start 4 ≠ adler32 output then throw .corrupt
  return .complete

structure Stream where
  mode : Mode
  /-- The number of bits read. -/
  position : Nat
  output : ByteArray

def Stream.start : Stream := ⟨.header, 0, .empty⟩

/-- The mode after a block. -/
def afterBlock (last : Bool) : Mode := if last then .trailer else .block

/-- Repeats output from some distance back. -/
def repeatBack (distance : Nat) : Nat → ByteArray → ByteArray
  | 0, output => output
  | n + 1, output => repeatBack distance n (output.push (byteAt output (output.size - distance)))

inductive Halt where
  /-- There is as much output as asked for, and more would be next. -/
  | full
  | starved
  | complete
  | corrupt
  deriving DecidableEq

/-- The outcome of a read as a step of the decoder. -/
def Stream.enter (s : Stream) (r : Bits Mode) : Except Halt Stream :=
  match r.run s.position with
  | .ok (mode, position) => .ok { s with mode, position }
  | .error .starved => .error .starved
  | .error .corrupt => .error .corrupt

/-- One step towards `target` bytes of output. -/
def Stream.step (source : ByteArray) (target : Nat) (s : Stream) : Except Halt Stream :=
  match s with
  | ⟨.header, position, output⟩ => Stream.enter ⟨.header, position, output⟩ (readHeader source)
  | ⟨.block, position, output⟩ => Stream.enter ⟨.block, position, output⟩ (readBlock source)
  | ⟨.trailer, position, output⟩ =>
    Stream.enter ⟨.trailer, position, output⟩ (readTrailer source output)
  | ⟨.stored 0 last, position, output⟩ => .ok ⟨afterBlock last, position, output⟩
  | ⟨.stored left last, position, output⟩ =>
    if target ≤ output.size then .error .full
    else
      let start := position / 8
      let n := min (min left (target - output.size)) (source.size - start)
      if n = 0 then .error .starved
      else
        .ok ⟨.stored (left - n) last, position + 8 * n, output ++ source.extract start (start + n)⟩
  | ⟨.coded literals distances last, position, output⟩ =>
    match (token source literals distances output.size).run position with
    | .ok (.endOfBlock, position) => .ok ⟨afterBlock last, position, output⟩
    | .ok (t, position) => .ok ⟨.pending t literals distances last, position, output⟩
    | .error .starved => .error .starved
    | .error .corrupt => .error .corrupt
  | ⟨.pending t literals distances last, position, output⟩ =>
    if target ≤ output.size then .error .full
    else
      match t with
      | .literal b => .ok ⟨.coded literals distances last, position, output.push b⟩
      | .copy length distance =>
        let n := min length (target - output.size)
        let mode :=
          if n < length then .pending (.copy (length - n) distance) literals distances last
          else .coded literals distances last
        .ok ⟨mode, position, repeatBack distance n output⟩
      | .endOfBlock => .ok ⟨afterBlock last, position, output⟩
  | ⟨.complete, _, _⟩ => .error .complete
  | ⟨.dictionary, _, _⟩ => .error .starved

def Stream.advance (source : ByteArray) (target : Nat) : (fuel : Nat) → Stream → Stream × Halt
  | 0, s => (s, .starved)
  | fuel + 1, s =>
    match s.step source target with
    | .error halt => (s, halt)
    | .ok next => Stream.advance source target fuel next

/-- Decodes as far as `target` bytes of output and what follows without more output. Every step
reads a bit, writes a byte or leaves an empty block. -/
def Stream.decode (source : ByteArray) (target : Nat) (s : Stream) : Stream × Halt :=
  s.advance source target (16 * source.size + 2 * target + 16)

/-- The bytes of the source that the decoder has not looked at. -/
def Stream.unread (source : ByteArray) (s : Stream) : Nat := source.size - (s.position + 7) / 8

end Deflate

end RasterTensor.Raster
