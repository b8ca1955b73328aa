/-!
# CRC-32

The cyclic redundancy check of the IEEE polynomial, bits taken lowest first.
-/

namespace OverlayPatch.Bytes

set_option autoImplicit false

/-- The polynomial, lowest power in the highest bit. -/
def crcPolynomial : UInt32 := 0xEDB88320

/-- Divides `count` bits out of a remainder. -/
def crcBits : Nat → UInt32 → UInt32
  | 0, crc => crc
  | count + 1, crc =>
      crcBits count (if crc &&& 1 = 1 then (crc >>> 1) ^^^ crcPolynomial else crc >>> 1)

def crc32 (bytes : List UInt8) : UInt32 :=
  bytes.foldl (fun crc byte => crcBits 8 (crc ^^^ byte.toUInt32)) 0xFFFFFFFF ^^^ 0xFFFFFFFF

/-- The lowest `count` bytes of a number, lowest first. -/
def littleEndian : Nat → Nat → List UInt8
  | 0, _ => []
  | count + 1, n => UInt8.ofNat n :: littleEndian count (n / 256)

end OverlayPatch.Bytes
