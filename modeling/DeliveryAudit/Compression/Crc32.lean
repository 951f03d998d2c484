/-!
# CRC-32

The cyclic redundancy check with the reflected polynomial `0xEDB88320`,
which a compressed file carries of its contents.
-/

namespace DeliveryAudit.Crc32

/-- Division by the polynomial, one bit at a time. -/
def shiftBits : Nat → UInt32 → UInt32
  | 0, c => c
  | n + 1, c => shiftBits n (if c &&& 1 == 1 then (0xEDB88320 : UInt32) ^^^ (c >>> 1) else c >>> 1)

/-- The check after one more byte. -/
def update (c : UInt32) (b : UInt8) : UInt32 := shiftBits 8 (c ^^^ b.toUInt32)

/-- The check of a byte string. -/
def ofBytes (bs : Array UInt8) : UInt32 := (bs.foldl update 0xFFFFFFFF) ^^^ 0xFFFFFFFF

end DeliveryAudit.Crc32
