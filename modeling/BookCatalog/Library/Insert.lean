import BookCatalog.Library.Binding
import BookCatalog.Notice

/-!
# Storing a book

`Library.insert` stores one book: names are resolved to their numbers, a book with the same id is
replaced, and its authors and its index row are written anew. Names that are known from earlier
submissions are not looked up again, and where there is nothing to delete for a book the deletions
can be skipped.
-/

namespace BookCatalog

/-- What storing depends on besides the tables: whether another writer holds the library, and the
time. -/
structure WriteContext where
  locked : Bool
  now : String
  deriving DecidableEq, Repr

/-- The names that a batch has met, with their numbers. -/
abbrev KnownNames := List (Kind × Named)

/-- The number of a name that the batch has met. -/
def KnownNames.idOf? (known : KnownNames) (kind : Kind) (name : String) : Option Int :=
  (known.find? fun k => k.1 = kind && k.2.name = name).map (·.2.id)

namespace Library

/-- Refuses a change while another writer holds the library. -/
def needUnlocked (ctx : WriteContext) : Except EngineError Unit :=
  if ctx.locked then .error .locked else .ok ()

/-! ## Statements -/

/-- Adds a name, which gets the next number. A name that is there already is refused. -/
def insertName (ctx : WriteContext) (kind : Kind) (name : String) (lib : Library) :
    Except EngineError (Int × Library) := do
  lib.needTables [kind.table]
  needUnlocked ctx
  let d := lib.names kind
  if (d.idOf? name).isSome then .error (.nameTaken kind.table)
  else pure (d.lastId + 1, lib.withNames kind (d.add name))

/-- The number of a name, which is added if it is new. Another writer may have added it since it was
last looked for, so it is added first, and looked up if it is there already. -/
def nameId (ctx : WriteContext) (kind : Kind) (name : String) (lib : Library) :
    Except EngineError (Int × Library) :=
  match lib.insertName ctx kind name with
  | .error (.nameTaken t) =>
    match (lib.names kind).idOf? name with
    | some id => .ok (id, lib)
    | none => .error (.nameTaken t)
  | added => added

/-- The library with a book in place of the one with its id, whose authorship goes with it. -/
def putBook (lib : Library) (b : StoredBook) : Library :=
  if lib.books.any (·.id = b.id) then
    { lib with
      books := lib.books.filter (·.id ≠ b.id) ++ [b]
      links := lib.links.filter (·.bookId ≠ b.id) }
  else { lib with books := lib.books ++ [b] }

/-- A statement that changes rows of a table. It is refused if the table is missing, or one that the
change looks into. -/
def changeRows (t : Table) (f : Library → Library) (lib : Library) :
    Except EngineError Library := do
  lib.needWritable t
  pure (f lib)

/-- Removes the authors of a book. -/
def removeLinks (bookId : String) : Library → Except EngineError Library :=
  changeRows .bookAuthors fun lib =>
    { lib with links := lib.links.filter (·.bookId ≠ bookId) }

/-- Refuses a row that refers to a row that is not there. -/
def needParents (found : Bool) : Except EngineError Unit :=
  if found then .ok () else .error .referenced

/-- The series and the genre of a book are there, if it has any. -/
def bookGrounded (lib : Library) (b : StoredBook) : Bool :=
  lib.series.holds b.seriesId && lib.genres.holds b.genreId

/-- The book of an authorship and its author are there. -/
def linkGrounded (lib : Library) (l : Link) : Bool :=
  lib.books.any (·.id = l.bookId) && lib.authors.holds l.authorId

/-- Adds an author to a book, unless it has that author. -/
def addLink (l : Link) (lib : Library) : Except EngineError Library := do
  lib.needWritable .bookAuthors
  if lib.links.contains l then pure lib
  else
    needParents (lib.linkGrounded l)
    pure { lib with links := lib.links ++ [l] }

/-- Removes the index rows of a book. -/
def removeIndexed (bookId : String) : Library → Except EngineError Library :=
  changeRows .booksFts fun lib =>
    { lib with index := lib.index.filter (·.bookId ≠ bookId) }

/-- Adds a row to the index. -/
def addIndexed (row : Index.Row) : Library → Except EngineError Library :=
  changeRows .booksFts fun lib => { lib with index := lib.index ++ [row] }

/-- Removes all rows of a table. -/
def removeAll (ctx : WriteContext) (t : Table) (lib : Library) : Except EngineError Library := do
  lib.needWritable t
  needUnlocked ctx
  lib.withoutRows t

/-! ## A book -/

/-- The number of a name, which is looked for among those that the batch has met, and the names that
it has met after that. -/
def resolve (ctx : WriteContext) (action : Action) (known : KnownNames) (kind : Kind)
    (name : String) : Transaction (Int × KnownNames) :=
  match known.idOf? kind name with
  | some id => pure (id, known)
  | none => do
    let id ← Transaction.execute action (nameId ctx kind name)
    pure (id, (kind, ⟨id, name⟩) :: known)

/-- The number of a name that may be missing or empty; such a name has none. -/
def resolve? (ctx : WriteContext) (action : Action) (known : KnownNames) (kind : Kind)
    (name : Option String) : Transaction (Option Int × KnownNames) :=
  match name with
  | none | some "" => pure (none, known)
  | some name => do
    let (id, known) ← resolve ctx action known kind name
    pure (some id, known)

/-- Writes the row of a book. The tables that it refers to must be there, every integer must fit its
column, the title must not be missing, and its series and genre must be there. -/
def writeBook (ctx : WriteContext) (s : Submission) (seriesId genreId : Option Int) :
    Transaction Unit := do
  Transaction.check (.insertBook s.id) (·.needWritable .books)
  if s.fits then
    Transaction.change (.insertBook s.id) fun lib => do
      needUnlocked ctx
      match s.stored? seriesId genreId ctx.now with
      | some b =>
        needParents (lib.bookGrounded b)
        pure (lib.putBook b)
      | none => .error .titleMissing
  else throw .integerTooLarge

/-- Adds an author by name; an author without a name is left out. -/
def addAuthor (ctx : WriteContext) (bookId : String) (known : KnownNames) (name : Option String) :
    Transaction KnownNames := do
  let (id, known) ← resolve? ctx (.insertBook bookId) known .authors name
  match id with
  | some id =>
    Transaction.change (.insertBook bookId) (addLink ⟨bookId, id⟩)
    pure known
  | none => pure known

/-- Adds an author by a name that is handed over. -/
def addGivenAuthor (ctx : WriteContext) (bookId : String) (known : KnownNames)
    (name : Option Given) :
    Transaction KnownNames := do
  bindName (.insertBook bookId) .authors name
  addAuthor ctx bookId known (name.map Given.text)

/-- The names of the authors as one text; every one of them must be a text. -/
def joinedAuthors (authors : List (Option String)) : Except Failure String :=
  match authors.findIdx? Option.isNone with
  | some i => .error (.authorNotText i)
  | none => .ok (String.intercalate " " (authors.filterMap id))

/-- Stores one book; the names that the batch has met after that. With `fresh`, the deletion of its
old authors and index row is skipped. -/
def insert {β : Type} [Handing β] (ctx : WriteContext) (fresh : Bool) (known : KnownNames) (b : β) :
    Transaction KnownNames := do
  let h := Handing.handed b
  let s := h.submission
  let action := Action.insertBook s.id
  bindName action .series h.series
  let (seriesId, known) ← resolve? ctx action known .series s.series
  bindName action .genres h.genre
  let (genreId, known) ← resolve? ctx action known .genres s.genre
  bindRow h
  writeBook ctx s seriesId genreId
  Transaction.skipIf fresh (Transaction.change action (removeLinks s.id))
  match h.authors with
  | none => throw .authorsMissing
  | some authors =>
    let known ← authors.foldlM (addGivenAuthor ctx s.id) known
    Transaction.skipIf fresh (Transaction.change action (removeIndexed s.id))
    match joinedAuthors (authors.map (·.map Given.text)) with
    | .error e => throw e
    | .ok joined =>
      Transaction.change action (addIndexed ⟨s.id, ⟨s.title, s.annotation, joined, s.series⟩⟩)
      pure known

end Library

end BookCatalog
