import BookCatalog.Library.Basic
import BookCatalog.Library.Record
import BookCatalog.Text.Number

/-!
# Library files

A library file is a text: a heading, and a record for every row of every table. `Library.fileText`
writes it and `Library.ofFileText?` reads it. The first field of a record says what it is about.
-/

namespace BookCatalog

/-- A number in a record. -/
def numberField (n : Int) : Option String :=
  some (toString n)

/-- The number in a field. -/
def readNumber (field : Option String) : Option Int :=
  field.bind fun s => Text.readInt? s.toList

/-- A number, or nothing, in a field. -/
def readNumber? : Option String → Option (Option Int)
  | none => some none
  | some s => (Text.readInt? s.toList).map some

/-- The word for a kind of names in a record. -/
def Kind.word (kind : Kind) : String :=
  kind.table.name

/-- The kind of names that a word stands for. -/
def Kind.ofWord? (word : String) : Option Kind :=
  [Kind.authors, .series, .genres].find? (·.word = word)

/-- An object of the schema as a record. -/
def SchemaObject.record (o : SchemaObject) : Record :=
  [some (if o.isTable then "table" else "index"), some o.name]

/-- A name as a record. -/
def Named.record (kind : Kind) (n : Named) : Record :=
  [some "name", some kind.word, numberField n.id, some n.name]

/-- The highest number given out for a kind as a record. -/
def Dimension.counterRecord (kind : Kind) (d : Dimension) : Record :=
  [some "counter", some kind.word, numberField d.lastId]

/-- A book as a record. -/
def StoredBook.record (b : StoredBook) : Record :=
  [some "book", some b.id, some b.title, b.seriesId.map toString, b.seriesNum.map toString,
    b.genreId.map toString, b.year.map toString, b.language, b.fileSize.map toString, b.archivePath,
    b.fileNum, b.format, b.dateAdded, b.rating.map toString, b.annotation, some b.createdAt,
    some b.updatedAt]

/-- An author of a book as a record. -/
def Link.record (l : Link) : Record :=
  [some "link", some l.bookId, numberField l.authorId]

/-- A row of the index as a record. -/
def Index.Row.record (r : Index.Row) : Record :=
  [some "text", some r.bookId, r.texts.title, r.texts.annotation, some r.texts.authors,
    r.texts.series]

namespace Library

/-- The records of the names of one kind. -/
def nameRecords (lib : Library) (kind : Kind) : List Record :=
  (lib.names kind).counterRecord kind :: (lib.names kind).rows.map (Named.record kind)

/-- The records of a library. -/
def records (lib : Library) : List Record :=
  lib.objects.map SchemaObject.record ++
    lib.versions.map (fun v : Nat => [some "version", numberField v]) ++
    lib.nameRecords .authors ++ lib.nameRecords .series ++ lib.nameRecords .genres ++
    lib.books.map StoredBook.record ++ lib.links.map Link.record ++
    lib.index.map Index.Row.record

/-- The first line of a library file. -/
def fileHeading : String := "book catalog, version 1"

/-- The text of a library file. -/
def fileText (lib : Library) : String :=
  String.ofList ((fileHeading.toList :: lib.records.map Record.line).flatMap (· ++ ['\n']))

/-- Puts a name in front of those of its kind. -/
def addName (lib : Library) (kind : Kind) (n : Named) : Library :=
  let d := lib.names kind
  lib.withNames kind { d with rows := n :: d.rows }

/-- Sets the highest number given out for a kind. -/
def setCounter (lib : Library) (kind : Kind) (n : Int) : Library :=
  lib.withNames kind { lib.names kind with lastId := n }

/-- The book in the fields of a record behind the first. -/
def readBook? : Record → Option StoredBook
  | [some id, some title, seriesId, seriesNum, genreId, year, language, fileSize, archivePath,
      fileNum, format, dateAdded, rating, annotation, some createdAt, some updatedAt] => do
    pure
      { id, title, language, archivePath, fileNum, format, dateAdded, annotation,
        createdAt, updatedAt
        seriesId := ← readNumber? seriesId
        seriesNum := ← readNumber? seriesNum
        genreId := ← readNumber? genreId
        year := ← readNumber? year
        fileSize := ← readNumber? fileSize
        rating := ← readNumber? rating }
  | _ => none

/-- Puts what a record says in front of a library's rows. -/
def addRecord? (r : Record) (lib : Library) : Option Library :=
  match r with
  | [some "table", some name] => some { lib with objects := ⟨true, name⟩ :: lib.objects }
  | [some "index", some name] => some { lib with objects := ⟨false, name⟩ :: lib.objects }
  | [some "version", version] => do
    pure { lib with versions := (← readNumber version).toNat :: lib.versions }
  | [some "counter", some kind, n] => do
    pure (lib.setCounter (← Kind.ofWord? kind) (← readNumber n))
  | [some "name", some kind, id, some name] => do
    pure (lib.addName (← Kind.ofWord? kind) ⟨← readNumber id, name⟩)
  | some "book" :: fields => do
    pure { lib with books := (← readBook? fields) :: lib.books }
  | [some "link", some bookId, authorId] => do
    pure { lib with links := ⟨bookId, ← readNumber authorId⟩ :: lib.links }
  | [some "text", some bookId, title, annotation, some authors, series] =>
    some { lib with index := ⟨bookId, ⟨title, annotation, authors, series⟩⟩ :: lib.index }
  | _ => none

/-- The library that a list of records describes. -/
def ofRecords? (rs : List Record) : Option Library :=
  rs.foldrM addRecord? {}

/-- The library that a file holds, if its text is that of a library file. -/
def ofFileText? (s : String) : Option Library := do
  match Text.splitOn '\n' s.toList with
  | heading :: lines =>
    if heading = fileHeading.toList ∧ lines.getLast? = some [] then
      ofRecords? (← lines.dropLast.mapM Record.ofLine?)
    else none
  | [] => none

end Library

end BookCatalog
