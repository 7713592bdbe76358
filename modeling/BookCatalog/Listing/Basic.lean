import BookCatalog.Listing.Line
import BookCatalog.Notice

/-!
# Listings

A listing is the text of one member of an index file, a book on every line. `Listing.read` gives its
books and reports the lines that are none. A book's file is named by its id, and lies in the archive
that the line names or, if it names none or repeats the id there, in the archive that the member is
named for.
-/

namespace BookCatalog.Listing

open Text

/-- The last component of a path; empty components and single dots are none. -/
def lastComponent (path : List Char) : List Char :=
  (((splitOn '/' path).filter fun part => !part.isEmpty && part != ['.']).getLast?).getD []

/-- A file name up to its last dot, unless that dot is the first or the last character. -/
def withoutExtension (name : List Char) : List Char :=
  let back := name.reverse.takeWhile (· ≠ '.')
  let front := (name.reverse.drop (back.length + 1)).reverse
  if back.isEmpty || front.isEmpty then name else front

/-- The archive that a member of an index file is named for. -/
def archiveName (member : List Char) : List Char :=
  withoutExtension (lastComponent member)

/-- A line as it was read, or the notice that it is none. -/
inductive Line where
  | blank
  | malformed
  | book (entry : Entry)
  deriving DecidableEq, Repr

/-- The file and the archive of a listed book. -/
def located (archive : String) (e : Entry) : Entry :=
  { e with
    archivePath := if e.archivePath = "" ∨ e.archivePath = e.id then archive else e.archivePath
    fileNum := e.id }

/-- Reads a line; blanks around it do not matter. -/
def Line.read (archive : String) (cs : List Char) : Line :=
  let text := strip cs
  if text.isEmpty then .blank
  else match Entry.ofLine? text with
    | some entry => .book (located archive entry)
    | none => .malformed

/-- The book on a line. -/
def Line.entry? : Line → Option Entry
  | .book entry => some entry
  | _ => none

/-- The notice that a line gives rise to. -/
def Line.notice? (member : String) (line : Line × Nat) : Option Notice :=
  match line.1 with
  | .malformed => some (.malformedLine line.2 member)
  | _ => none

/-- The lines of a text, read. -/
def lines (text member : List Char) : List Line :=
  let archive := String.ofList (archiveName member)
  (splitOn '\n' text).map (Line.read archive)

/-- The books of a listing, in order. -/
def books (text member : List Char) : List Entry :=
  (lines text member).filterMap Line.entry?

/-- The notices about a listing; lines are counted from one. -/
def notices (text member : List Char) : List Notice :=
  ((lines text member).zipIdx 1).filterMap (Line.notice? (String.ofList member))

end BookCatalog.Listing
