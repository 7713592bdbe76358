import BookCatalog.Archive.Field

/-!
# Checksums

The 32-bit cyclic redundancy check of an archive member: the remainder of its bits by a fixed
polynomial, bits reversed, inverted before and after.
-/

namespace BookCatalog.Archive

/-- One bit of the division. -/
def checksumBit (r : UInt32) : UInt32 :=
  if r &&& 1 = 1 then (r >>> 1) ^^^ 0xEDB88320 else r >>> 1

/-- One byte of the division. -/
def checksumByte (r : UInt32) (b : UInt8) : UInt32 :=
  Nat.repeat checksumBit 8 (r ^^^ b.toUInt32)

/-- The checksum of bytes. -/
def checksum (bytes : Bytes) : Nat :=
  (bytes.foldl checksumByte 0xFFFFFFFF ^^^ 0xFFFFFFFF).toNat

end BookCatalog.Archive
