import BookCatalog.Text.Given
import BookCatalog.Text.Number

/-!
# Failures of the library

`EngineError` says why the storage engine refuses a statement. A `Failure` is what a caller of the
library sees: an engine error that ended an action of the catalog, an engine error as it is, an
argument that the engine cannot take, or an action that cannot be reported.
-/

namespace BookCatalog

/-- The tables of a library. -/
inductive Table where
  | authors
  | genres
  | series
  | books
  | bookAuthors
  | booksFts
  | schemaVersion
  deriving DecidableEq, Repr

/-- The name of a table. -/
def Table.name : Table → String
  | .authors => "authors"
  | .genres => "genres"
  | .series => "series"
  | .books => "books"
  | .bookAuthors => "book_authors"
  | .booksFts => "books_fts"
  | .schemaVersion => "schema_version"

/-- All tables. -/
def Table.all : List Table :=
  [.authors, .genres, .series, .books, .bookAuthors, .booksFts, .schemaVersion]

/-- The table with a name. -/
def Table.ofName? (name : String) : Option Table :=
  Table.all.find? (·.name = name)

/-- The tables that hold names: authors, series and genres. -/
inductive Kind where
  | authors
  | series
  | genres
  deriving DecidableEq, Repr

/-- The table of a kind of name. -/
def Kind.table : Kind → Table
  | .authors => .authors
  | .series => .series
  | .genres => .genres

/-- Why the engine refuses a statement. -/
inductive EngineError where
  | closed
  | locked
  | nestedTransaction
  | noSuchTable (name : String)
  | tableExists (name : String)
  | tableNameTaken (name : String)
  | titleMissing
  | nameTaken (table : Table)
  | referenced
  | patternTooComplex
  | syncFixed
  | journalFixed
  | notADatabase
  | cannotOpen
  deriving DecidableEq, Repr

/-- The text of an engine error. -/
def EngineError.message : EngineError → String
  | .closed => "Cannot operate on a closed database."
  | .locked => "database is locked"
  | .nestedTransaction => "cannot start a transaction within a transaction"
  | .noSuchTable name => "no such table: " ++ name
  | .tableExists name => "table " ++ name ++ " already exists"
  | .tableNameTaken name => "there is already a table named " ++ name
  | .titleMissing => "NOT NULL constraint failed: books.title"
  | .nameTaken table => "UNIQUE constraint failed: " ++ table.name ++ ".name"
  | .referenced => "FOREIGN KEY constraint failed"
  | .patternTooComplex => "LIKE or GLOB pattern too complex"
  | .syncFixed => "Safety level may not be changed inside a transaction"
  | .journalFixed => "cannot change out of wal mode from within a transaction"
  | .notADatabase => "file is not a database"
  | .cannotOpen => "unable to open database file"

/-- What the catalog was doing. -/
inductive Action where
  | insertBook (id : String)
  | clear
  | count
  | search
  | getBook (id : String)
  | list (kind : Kind)
  | load (kind : Kind) (id : Int)
  deriving DecidableEq, Repr

/-- How a failed action is reported. -/
def Action.failure : Action → String
  | .insertBook id => "Failed to insert book " ++ id
  | .clear => "Failed to clear catalog"
  | .count => "Failed to count books"
  | .search => "Failed to execute search query"
  | .getBook id => "Failed to get book " ++ id
  | .list kind => "Failed to list " ++ kind.table.name
  | .load kind id => s!"Failed to load {kind.table.name} row {id}"

/-- Why a call to the library fails. A number that has too many digits to be written makes the
report of a failed action fail itself. -/
inductive Failure where
  | catalog (action : Action) (cause : EngineError)
  | engine (cause : EngineError)
  | integerTooLarge
  | notUtf8 (fault : EncodingFault)
  | numberTooLong
  | authorNotText (position : Nat)
  | authorsMissing
  deriving DecidableEq, Repr

/-- How an action fails that is reported with a number, if a number of too many digits cannot be
written. -/
def Failure.reporting (n : Int) : Failure → Failure
  | .catalog action cause =>
    if Nat.pow 10 Text.maxDigits ≤ n.natAbs then .numberTooLong else .catalog action cause
  | e => e

/-- The text of a failure. -/
def Failure.message : Failure → String
  | .catalog action cause => action.failure ++ ": " ++ cause.message
  | .engine cause => cause.message
  | .integerTooLarge => "Python int too large to convert to SQLite INTEGER"
  | .notUtf8 fault => fault.message
  | .numberTooLong =>
    "Exceeds the limit (4300 digits) for integer string conversion; " ++
      "use sys.set_int_max_str_digits() to increase the limit"
  | .authorNotText position => s!"sequence item {position}: expected str instance, NoneType found"
  | .authorsMissing => "'NoneType' object is not iterable"

end BookCatalog
