/-!
# Binary fields

An archive is a sequence of bytes with numbers at fixed places in it, least significant byte first.
-/

namespace BookCatalog.Archive

/-- The content of a file. -/
abbrev Bytes := List UInt8

/-- Some bytes of a file: no more than `size` of them from `start` on. -/
def part (bytes : Bytes) (start size : Nat) : Bytes :=
  (bytes.drop start).take size

/-- The number that bytes write. -/
def number (bytes : Bytes) : Nat :=
  bytes.foldr (fun b n => b.toNat + 256 * n) 0

/-- The number in a field. -/
def field (bytes : Bytes) (start size : Nat) : Nat :=
  number (part bytes start size)

/-- The mark that a record of an archive begins with: two letters and the number of its kind. -/
def mark (a b : UInt8) : Bytes :=
  [0x50, 0x4B, a, b]

/-- A record begins with a mark. -/
def hasMark (m record : Bytes) : Bool :=
  record.take 4 == m

end BookCatalog.Archive
