import BookCatalog.Text.Runs

/-!
# Paths

A path is a sequence of names that starts at the root or at the current directory. Empty names and
single dots do not count; two dots stay, since what they mean depends on the disk.
-/

namespace BookCatalog

/-- A path. -/
structure Path where
  absolute : Bool
  names : List String
  deriving DecidableEq, Repr

namespace Path

/-- The path that a text writes. -/
def ofText (s : String) : Path :=
  { absolute := s.toList.head? = some '/'
    names := ((Text.splitOn '/' s.toList).map String.ofList).filter fun name =>
      name ≠ "" && name ≠ "." }

/-- The written form of a path. -/
def text (p : Path) : String :=
  if p.names.isEmpty then (if p.absolute then "/" else ".")
  else (if p.absolute then "/" else "") ++ String.intercalate "/" p.names

/-- The directory that a path lies in. -/
def parent (p : Path) : Path :=
  { p with names := p.names.dropLast }

/-- Where the names of a path start. -/
def start (p : Path) : Path :=
  { p with names := [] }

/-- The path one step further; two dots lead back. -/
def enter (p : Path) (name : String) : Path :=
  { p with names := if name = ".." then p.names.dropLast else p.names ++ [name] }

end Path

end BookCatalog
