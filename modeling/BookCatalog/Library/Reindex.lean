import BookCatalog.Inpx
import BookCatalog.Library.Session

/-!
# Rebuilding a library

`Session.reindex` replaces the content of a library by the books of an index file. The file is read
before anything is deleted, so a file that cannot be read leaves the library as it was.
-/

namespace BookCatalog

/-- Why a library cannot be rebuilt. -/
inductive ReindexError where
  | noPath
  | notFound (path : String)
  | index (cause : InpxError)
  | library (cause : Failure)
  deriving DecidableEq, Repr

/-- The text of an error. -/
def ReindexError.message : ReindexError → String
  | .noPath => "INPX path is empty"
  | .notFound path => "INPX file not found: " ++ path
  | .index cause => cause.message
  | .library cause => cause.message

/-- A summary of a rebuilt library: how many books were read, and the heading of their file. -/
structure Imported where
  count : Nat
  collection : Option CollectionInfo
  deriving DecidableEq, Repr

namespace Session

/-- Replaces the content of a library by books that have been read. The surroundings are the same
while the library is emptied and while the books are stored. -/
def refill (s : Session) (around : Surroundings) (now : String) (interval : Nat) (inpx : Inpx) :
    Session × Reply ReindexError Imported :=
  match s.clear around with
  | (s, .error e) => (s, ⟨.error (.library e), [.clearing]⟩)
  | (s, .ok ()) =>
    let (s, reply) := s.insert around now interval (inpx.books.map Entry.submission)
    let notices := [.clearing, .cleared, .inserting] ++ reply.notices
    match reply.outcome with
    | .error e => (s, ⟨.error (.library e), notices⟩)
    | .ok () => (s, ⟨.ok ⟨inpx.books.length, inpx.collection⟩, notices ++ [.inserted]⟩)

/-- Rebuilds a library from an index file that is there. -/
def rebuild (s : Session) (around : Surroundings) (now : String) (interval : Nat) (path : String)
    (source : IndexSource) : Session × Reply ReindexError Imported :=
  let reading := Inpx.read path source
  let notices := .reading path :: reading.notices
  match reading.outcome with
  | .error e => (s, ⟨.error (.index e), notices⟩)
  | .ok inpx =>
    let (s, reply) := s.refill around now interval inpx
    (s, { reply with notices := notices ++ .parsed inpx.books.length :: reply.notices })

/-- Rebuilds a library from an index file, if one is given and is there. -/
def reindex (s : Session) (around : Surroundings) (now : String) (interval : Nat) :
    Option IndexFile → Session × Reply ReindexError Imported
  | none => (s, { outcome := .error .noPath })
  | some ⟨path, .missing⟩ => (s, { outcome := .error (.notFound path) })
  | some ⟨path, source⟩ => s.rebuild around now interval path source

end Session

end BookCatalog
