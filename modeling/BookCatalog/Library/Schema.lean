import BookCatalog.Library.Basic

/-!
# Creating and dropping tables

`Library.create` runs the script that makes the tables of a new library. It stops at the first
object that cannot be made and keeps those that it has made. `Library.drop` removes a table, with
the rows that belong to its rows, unless other rows refer to them.
-/

namespace BookCatalog

/-- An object of the script, and the table that an index belongs to. -/
structure SchemaStep where
  object : SchemaObject
  table : Table
  deriving DecidableEq, Repr

/-- A table of the script. -/
def SchemaStep.ofTable (t : Table) : SchemaStep := ⟨⟨true, t.name⟩, t⟩

/-- An index of the script. -/
def SchemaStep.ofIndex (name : String) (t : Table) : SchemaStep := ⟨⟨false, name⟩, t⟩

/-- The script of a new library. -/
def schemaScript : List SchemaStep :=
  [.ofTable .authors, .ofTable .genres, .ofTable .series, .ofTable .books, .ofTable .bookAuthors,
    .ofIndex "idx_books_title" .books, .ofIndex "idx_books_series" .books,
    .ofIndex "idx_books_genre" .books, .ofIndex "idx_books_year" .books,
    .ofIndex "idx_books_language" .books, .ofIndex "idx_books_format" .books,
    .ofIndex "idx_books_date_added" .books, .ofIndex "idx_book_authors_author" .bookAuthors,
    .ofTable .booksFts, .ofTable .schemaVersion]

/-- The version of the tables that the script makes. -/
def schemaVersion : Nat := 1

namespace Library

/-- The library has a table of this name, case ignored. -/
def nameTaken (lib : Library) (name : String) : Bool :=
  lib.objects.any fun o => o.name.toLower == name.toLower

/-- Makes one object, unless its name is taken. -/
def createObject (lib : Library) (step : SchemaStep) : Except EngineError Library :=
  if lib.nameTaken step.object.name then
    .error
      (if step.object.isTable then .tableExists step.object.name
      else .tableNameTaken step.object.name)
  else .ok { lib with objects := lib.objects ++ [step.object] }

/-- Makes objects one after the other: the library as far as it got, and the error that stopped
it. -/
def createAll (lib : Library) : List SchemaStep → Library × Option EngineError
  | [] => (lib, none)
  | step :: steps =>
    match lib.createObject step with
    | .ok lib => lib.createAll steps
    | .error e => (lib, some e)

/-- The tables of a library are there already. -/
def isInitialized (lib : Library) : Bool :=
  lib.hasTable .schemaVersion

/-- Makes the tables of a library, unless they are there already. -/
def create (lib : Library) : Library × Option EngineError :=
  if lib.isInitialized then (lib, none)
  else match lib.createAll schemaScript with
    | (lib, none) => ({ lib with versions := [schemaVersion] }, none)
    | (lib, some e) => (lib, some e)

/-- A new library. -/
def fresh : Library :=
  (create {}).1

/-- The objects that go with a table. -/
def belongsTo (t : Table) (o : SchemaObject) : Bool :=
  schemaScript.any fun step => step.table == t && step.object == o

/-- Removes a table's entries from the schema. -/
def forget (lib : Library) (t : Table) : Library :=
  { lib with objects := lib.objects.filter (!belongsTo t ·) }

/-- Forgets which numbers a table of names has given out. -/
def withoutCounter (lib : Library) : Table → Library
  | .authors => { lib with authors.lastId := 0 }
  | .series => { lib with series.lastId := 0 }
  | .genres => { lib with genres.lastId := 0 }
  | _ => lib

/-- Drops a table. Its rows go first. -/
def drop (lib : Library) (t : Table) : Except EngineError Library := do
  lib.needTables [t]
  let lib ← lib.withoutRows t
  pure ((lib.withoutCounter t).forget t)

/-- Drops the table of a name. -/
def dropNamed (lib : Library) (name : String) : Except EngineError Library :=
  match Table.ofName? name with
  | some t => lib.drop t
  | none => .error (.noSuchTable name)

end Library

end BookCatalog
