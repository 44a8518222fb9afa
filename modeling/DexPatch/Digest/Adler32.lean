import DexPatch.Bytes

namespace DexPatch.Digest

/-!
# Adler-32

Two running sums modulo the largest prime below 65536: of the bytes, and of
the first sum after each byte.
-/

/-- The modulus of both sums. -/
def adlerPrime : Nat := 65521

/-- The two sums after one more byte. -/
def adlerStep (sums : Nat × Nat) (byte : UInt8) : Nat × Nat :=
  let low := (sums.1 + byte.toNat) % adlerPrime
  (low, (sums.2 + low) % adlerPrime)

/-- The Adler-32 of some bytes. -/
def adler32 (data : Bytes) : UInt32 :=
  let (low, high) := data.foldl adlerStep (1, 0)
  UInt32.ofNat (high * 65536 + low)

end DexPatch.Digest
