import DexPatch.Bytes

namespace DexPatch.Digest

/-!
# CRC-32

The remainder of the message as a polynomial over bits, lowest bit first, with
the bits flipped before and after.  An archive carries it for each entry.
-/

/-- The remainder after one more bit. -/
def crcBit (remainder : UInt32) : UInt32 :=
  if remainder.toNat % 2 = 1 then (remainder >>> 1) ^^^ 0xedb88320 else remainder >>> 1

/-- The remainder after one more byte. -/
def crcByte (remainder : UInt32) (byte : UInt8) : UInt32 :=
  (List.range 8).foldl (fun remainder _ => crcBit remainder) (remainder ^^^ byte.toUInt32)

/-- The CRC-32 of some bytes. -/
def crc32 (data : Bytes) : UInt32 := ~~~(data.foldl crcByte 0xffffffff)

end DexPatch.Digest
