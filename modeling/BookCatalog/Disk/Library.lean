import BookCatalog.Disk.Basic
import BookCatalog.Library.Session

/-!
# Libraries on a disk

`Disk.openLibrary` opens the library at a path, and makes it if there is none; `Disk.close` leaves
what has been stored in it on the disk. A library without a file is gone when it is closed.
-/

namespace BookCatalog

/-- Why a library cannot be opened. -/
inductive OpenError where
  | directory (cause : DirectoryError)
  | file (path : Path)
  | schema (path : Path) (cause : EngineError)
  deriving DecidableEq, Repr

/-- The text of an error. -/
def OpenError.message : OpenError → String
  | .directory cause => "Failed to create database directory: " ++ cause.message
  | .file path => s!"Failed to open database {path.text}: {EngineError.cannotOpen.message}"
  | .schema path cause => s!"Failed to initialize schema in {path.text}: {cause.message}"

/-- The path of a library without a file. -/
def memoryPath : String := ":memory:"

/-- A catalog at work on a library that has just been opened. -/
def Session.ofLibrary (content : Library) (journal : Journal) : Session :=
  { content, settings := { journal }, threshold := defaultThreshold }

namespace Disk

/-- The library that a file holds; an empty file holds one without tables. -/
def libraryOf : Option Node → Except EngineError Library
  | none | some (.data []) => .ok {}
  | some (.library content) => .ok content
  | some .directory => .error .cannotOpen
  | some _ => .error .notADatabase

/-- Leaves a library at a path. -/
def store (d : Disk) (p : Path) (content : Library) : Disk :=
  d.put ((d.resolve? p).getD p) (.library content)

/-- Makes the tables of the library at a path, as far as that goes. -/
def initialize? (d : Disk) (p : Path) (content : Library) : Disk × Except OpenError Session :=
  let (content, stopped) := content.create
  (d.store p content,
    match stopped with
    | none => .ok (Session.ofLibrary content .wal)
    | some e => .error (.schema p e))

/-- Opens the library at a path. The directories that it lies in are made. -/
def openLibrary (d : Disk) (p : Path) : Disk × Except OpenError Session :=
  match d.makeDirectory p.parent with
  | .error e => (d, .error (.directory e))
  | .ok d =>
    if p.text = memoryPath then (d, .ok (Session.ofLibrary Library.fresh .memory))
    else match libraryOf (d.find? p) with
      | .ok content => d.initialize? p content
      | .error .cannotOpen => (d, .error (.file p))
      | .error e => (d, .error (.schema p e))

/-- Closes a library that was opened at a path. -/
def close (d : Disk) (p : Path) (s : Session) : Disk :=
  if p.text = memoryPath then d else d.store p s.content

end Disk

end BookCatalog
