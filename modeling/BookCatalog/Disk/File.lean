import BookCatalog.Disk.Basic
import BookCatalog.Library.File

/-!
# Files on a disk

What the bytes of a file hold, and which libraries have changed.
-/

namespace BookCatalog

/-- What a file with given bytes is: a library if it is written as one, and otherwise just bytes. -/
def Node.ofBytes (bytes : ByteArray) : Node :=
  match (String.fromUTF8? bytes).bind Library.ofFileText? with
  | some lib => .library lib
  | none => .data bytes.toList

namespace Disk

/-- The library at a path. -/
def library? (d : Disk) (p : Path) : Option Library :=
  match d.find? p with
  | some (.library lib) => some lib
  | _ => none

/-- The library at a path, if it is not the one that was there before. -/
def changed? (before after : Disk) (p : Path) : Option Library :=
  (after.library? p).filter fun lib => before.library? p ≠ some lib

end Disk

end BookCatalog
