/-!
# Checksums

The 32-bit cyclic redundancy check and the Adler checksum of a byte string.
-/

namespace RasterTensor.Binary

/-- One bit of the cyclic redundancy check. -/
def crcStep (c : UInt32) : UInt32 :=
  if c &&& 1 = 1 then (0xEDB88320 : UInt32) ^^^ (c >>> 1) else c >>> 1

/-- What each byte contributes. -/
def crcTable : Array UInt32 :=
  Array.ofFn fun i : Fin 256 => (List.range 8).foldl (fun c _ => crcStep c) (.ofNat i)

def crcUpdate (c : UInt32) (b : UInt8) : UInt32 :=
  crcTable.getD ((c ^^^ b.toUInt32) &&& 0xFF).toNat 0 ^^^ (c >>> 8)

def crc32 (bytes : ByteArray) : UInt32 := bytes.foldl crcUpdate 0xFFFFFFFF ^^^ 0xFFFFFFFF

def adlerModulus : Nat := 65521

def adler32 (bytes : ByteArray) : Nat :=
  let (a, b) := bytes.foldl
    (fun (a, b) x =>
      let a' := (a + x.toNat) % adlerModulus
      (a', (b + a') % adlerModulus))
    (1, 0)
  b * 65536 + a

end RasterTensor.Binary
