import BookCatalog.Calendar

/-!
# Books as they are listed and as they are cataloged

An `Entry` is one line of an index file. A `Submission` is what the catalog is asked to store: the
same fields, each of which but the id may be missing. A `Book` is what the catalog gives back, with
the names of its authors, series and genre resolved to the rows that hold them.
-/

namespace BookCatalog

/-- One book of an index file. -/
structure Entry where
  id : String
  title : String
  authors : List String := []
  series : String := ""
  seriesNum : Int := 0
  genre : String := ""
  year : Int := 0
  language : String := ""
  fileSize : Int := 0
  archivePath : String := ""
  fileNum : String := ""
  format : String := ""
  date : Option DateTime := none
  rating : Int := 0
  annotation : String := ""
  deriving DecidableEq, Repr

/-- The heading of an index file: its name, version and description, and the date in its name. -/
structure CollectionInfo where
  name : String
  version : String
  description : String
  date : String := ""
  deriving DecidableEq, Repr

/-- A book to be stored. Every field but the id may be missing, and so may any author name. -/
structure Submission where
  id : String
  title : Option String
  authors : Option (List (Option String)) := some []
  series : Option String := some ""
  seriesNum : Option Int := some 0
  genre : Option String := some ""
  year : Option Int := some 0
  language : Option String := some ""
  fileSize : Option Int := some 0
  archivePath : Option String := some ""
  fileNum : Option String := some ""
  format : Option String := some ""
  date : Option DateTime := none
  rating : Option Int := some 0
  annotation : Option String := some ""
  deriving DecidableEq, Repr

/-- A listed book as it is stored, with nothing missing. -/
def Entry.submission (e : Entry) : Submission :=
  { id := e.id
    title := some e.title
    authors := some (e.authors.map some)
    series := some e.series
    seriesNum := some e.seriesNum
    genre := some e.genre
    year := some e.year
    language := some e.language
    fileSize := some e.fileSize
    archivePath := some e.archivePath
    fileNum := some e.fileNum
    format := some e.format
    date := e.date
    rating := some e.rating
    annotation := some e.annotation }

/-- A name with the number that the catalog knows it by: an author, a series or a genre. -/
structure Named where
  id : Int
  name : String
  deriving DecidableEq, Repr

/-- A cataloged book. Its authors are ordered by name. -/
structure Book where
  id : String
  title : String
  authors : List Named := []
  series : Option Named := none
  seriesNum : Int := 0
  genre : Option Named := none
  year : Int := 0
  language : String := ""
  fileSize : Int := 0
  archivePath : String := ""
  fileNum : String := ""
  format : String := ""
  dateAdded : Option DateTime := none
  rating : Int := 0
  annotation : String := ""
  createdAt : String := ""
  updatedAt : String := ""
  deriving DecidableEq, Repr

/-- The names of a book's authors, as they are shown. -/
def Book.author (b : Book) : String :=
  String.intercalate ", " (b.authors.map Named.name)

end BookCatalog
