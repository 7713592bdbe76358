import BookCatalog.Disk.Path
import BookCatalog.Inpx
import BookCatalog.Library.Basic

/-!
# Disks

A `Disk` says what lies at which path: directories, libraries, index files and other files. The
directories where paths start are always there.
-/

namespace BookCatalog

/-- What lies at a path. -/
inductive Node where
  | directory
  | library (content : Library)
  | archive (members : List Archive.Member)
  | data (bytes : Archive.Bytes)

/-- What lies at which path; a later entry for a path counts less than an earlier one. -/
structure Disk where
  nodes : List (Path × Node) := []

/-- Why a directory cannot be made. -/
inductive DirectoryError where
  | exists (path : Path)
  | notADirectory (path : Path)
  deriving DecidableEq, Repr

/-- The text of an error. -/
def DirectoryError.message : DirectoryError → String
  | .exists path => "[Errno 17] File exists: " ++ Text.quoted path.text
  | .notADirectory path => "[Errno 20] Not a directory: " ++ Text.quoted path.text

namespace Disk

/-- What lies at a path without two dots in it. -/
def at? (d : Disk) (p : Path) : Option Node :=
  if p.names.isEmpty then some .directory else d.nodes.lookup p

/-- Puts something at a path. -/
def put (d : Disk) (p : Path) (n : Node) : Disk :=
  { nodes := (p, n) :: d.nodes.filter (·.1 ≠ p) }

/-- Where names lead from a directory; all but the last must be directories. -/
def walk (d : Disk) (here : Path) : List String → Option Path
  | [] => some here
  | [name] => some (here.enter name)
  | name :: rest =>
    match d.at? (here.enter name) with
    | some .directory => d.walk (here.enter name) rest
    | _ => none

/-- Where a path leads. -/
def resolve? (d : Disk) (p : Path) : Option Path :=
  d.walk p.start p.names

/-- What a path leads to. -/
def find? (d : Disk) (p : Path) : Option Node :=
  (d.resolve? p).bind d.at?

/-- A path leads to a directory. -/
def isDirectory (d : Disk) (p : Path) : Bool :=
  match d.find? p with
  | some .directory => true
  | _ => false

/-- Makes the directories that names lead through and that are not there; `whole` is the path that
is wanted. -/
def makeFrom (d : Disk) (whole here : Path) : List String → Except DirectoryError Disk
  | [] => .ok d
  | name :: rest =>
    match d.at? (here.enter name) with
    | some .directory => d.makeFrom whole (here.enter name) rest
    | none => (d.put (here.enter name) .directory).makeFrom whole (here.enter name) rest
    | some _ => .error (if rest.isEmpty then .exists whole else .notADirectory whole)

/-- Makes a directory, and those that it lies in. -/
def makeDirectory (d : Disk) (p : Path) : Except DirectoryError Disk :=
  d.makeFrom p p.start p.names

/-- The index file at a path, read with the decoders of the installation. -/
def indexFile (d : Disk) (codecs : Archive.Codecs) (p : Path) : IndexFile :=
  { path := p.text
    source :=
      match d.find? p with
      | none => .missing
      | some .directory => .directory
      | some (.archive members) => .file (.ok members)
      | some (.data bytes) => .file (Archive.members bytes codecs)
      | some (.library _) => .file (.error .notAnArchive) }

end Disk

end BookCatalog
