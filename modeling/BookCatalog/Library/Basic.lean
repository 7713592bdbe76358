import BookCatalog.Index.Basic
import BookCatalog.Library.Failure
import BookCatalog.Library.Row

/-!
# The tables of a library

A `Library` is the content of the tables: the names of authors, series and genres with their
numbers, the books, who wrote which, and the full-text index. Names keep their numbers, and a number
is never given out twice, not even after its name is gone. Rows are kept in the order in which they
were written.
-/

namespace BookCatalog

/-- A table of names. `lastId` is the highest number ever given out. -/
structure Dimension where
  rows : List Named := []
  lastId : Int := 0
  deriving DecidableEq, Repr

namespace Dimension

/-- The number of a name. -/
def idOf? (d : Dimension) (name : String) : Option Int :=
  (d.rows.find? (·.name = name)).map Named.id

/-- The row with a number. -/
def byId? (d : Dimension) (id : Int) : Option Named :=
  d.rows.find? (·.id = id)

/-- A number that a row keeps is the number of a name; no number need not be. -/
def holds (d : Dimension) (id : Option Int) : Bool :=
  id.all fun id => d.rows.any (·.id = id)

/-- The table with one more name, which gets the next number. -/
def add (d : Dimension) (name : String) : Dimension :=
  { rows := d.rows ++ [⟨d.lastId + 1, name⟩], lastId := d.lastId + 1 }

/-- The table without its rows; numbers go on where they were. -/
def clear (d : Dimension) : Dimension :=
  { d with rows := [] }

end Dimension

/-- An author of a book. -/
structure Link where
  bookId : String
  authorId : Int
  deriving DecidableEq, Repr

/-- A table or an index of a library, known by its name. -/
structure SchemaObject where
  isTable : Bool
  name : String
  deriving DecidableEq, Repr

/-- The content of a library. -/
structure Library where
  objects : List SchemaObject := []
  versions : List Nat := []
  authors : Dimension := {}
  series : Dimension := {}
  genres : Dimension := {}
  books : List StoredBook := []
  links : List Link := []
  index : List Index.Row := []
  deriving DecidableEq, Repr

namespace Library

/-- The library has a table. -/
def hasTable (lib : Library) (t : Table) : Bool :=
  lib.objects.contains ⟨true, t.name⟩

/-- The names of one kind. -/
def names (lib : Library) : Kind → Dimension
  | .authors => lib.authors
  | .series => lib.series
  | .genres => lib.genres

/-- The library with other names of one kind. -/
def withNames (lib : Library) : Kind → Dimension → Library
  | .authors, d => { lib with authors := d }
  | .series, d => { lib with series := d }
  | .genres, d => { lib with genres := d }

/-- Only the names of the kind that is replaced are other names. -/
theorem names_withNames (lib : Library) (kind kind' : Kind) (d : Dimension) :
    (lib.withNames kind d).names kind' = if kind' = kind then d else lib.names kind' := by
  cases kind <;> cases kind' <;> rfl

@[simp] theorem names_withNames_self (lib : Library) (kind : Kind) (d : Dimension) :
    (lib.withNames kind d).names kind = d := by
  cases kind <;> rfl

@[simp] theorem withNames_objects (lib : Library) (kind : Kind) (d : Dimension) :
    (lib.withNames kind d).objects = lib.objects := by
  cases kind <;> rfl

@[simp] theorem withNames_books (lib : Library) (kind : Kind) (d : Dimension) :
    (lib.withNames kind d).books = lib.books := by
  cases kind <;> rfl

@[simp] theorem withNames_links (lib : Library) (kind : Kind) (d : Dimension) :
    (lib.withNames kind d).links = lib.links := by
  cases kind <;> rfl

@[simp] theorem withNames_index (lib : Library) (kind : Kind) (d : Dimension) :
    (lib.withNames kind d).index = lib.index := by
  cases kind <;> rfl

/-- The library with the books, names, authorship and index taken out; tables and counters stay. -/
def emptied (lib : Library) : Library :=
  { lib with
    authors := lib.authors.clear
    series := lib.series.clear
    genres := lib.genres.clear
    books := []
    links := []
    index := [] }

/-- The library without the rows of a table. Authors and books take the authorship with them, while
series and genres that a book refers to stay and refuse to go. Numbers go on where they were. -/
def withoutRows (lib : Library) : Table → Except EngineError Library
  | .authors => .ok { lib with authors := lib.authors.clear, links := [] }
  | .books => .ok { lib with books := [], links := [] }
  | .series =>
    if lib.books.any (·.seriesId.isSome) then .error .referenced
    else .ok { lib with series := lib.series.clear }
  | .genres =>
    if lib.books.any (·.genreId.isSome) then .error .referenced
    else .ok { lib with genres := lib.genres.clear }
  | .bookAuthors => .ok { lib with links := [] }
  | .booksFts => .ok { lib with index := [] }
  | .schemaVersion => .ok { lib with versions := [] }

/-- Refuses a statement on tables of which one is missing; the first one is named. -/
def needTables (lib : Library) (tables : List Table) : Except EngineError Unit :=
  match tables.find? (!lib.hasTable ·) with
  | some t => .error (.noSuchTable t.name)
  | none => .ok ()

/-- Refuses a change of rows that refer to tables of which one is missing. -/
def needReferenced (lib : Library) (tables : List Table) : Except EngineError Unit :=
  match tables.find? (!lib.hasTable ·) with
  | some t => .error (.noSuchTable ("main." ++ t.name))
  | none => .ok ()

/-- A statement is not refused if all its tables are there. -/
theorem needTables_eq_ok {lib : Library} {tables : List Table} :
    lib.needTables tables = .ok () ↔ ∀ t ∈ tables, lib.hasTable t = true := by
  unfold needTables
  cases missing : tables.find? (!lib.hasTable ·) with
  | some t =>
    have mem := List.mem_of_find?_eq_some missing
    have absent := List.find?_some missing
    simp only [reduceCtorEq, false_iff]
    intro all
    simp [all t mem] at absent
  | none => simpa using List.find?_eq_none.1 missing

/-- A change of rows is not refused if all tables that the rows refer to are there. -/
theorem needReferenced_eq_ok {lib : Library} {tables : List Table} :
    lib.needReferenced tables = .ok () ↔ ∀ t ∈ tables, lib.hasTable t = true := by
  rw [← needTables_eq_ok]
  unfold needReferenced needTables
  cases tables.find? (!lib.hasTable ·) <;> simp

/-- The tables that a change of a table's rows looks into: those that the rows refer to, and those
that the rows going with them refer to. -/
def referredTo (lib : Library) : Table → List Table
  | .books => [.genres, .series] ++ if lib.hasTable .bookAuthors then [.authors] else []
  | .bookAuthors => [.authors, .books]
  | _ => []

/-- Refuses a change of a table's rows if it, or a table that it looks into, is missing. -/
def needWritable (lib : Library) (t : Table) : Except EngineError Unit := do
  lib.needTables [t]
  lib.needReferenced (lib.referredTo t)

end Library

/-- The numbers of rows in the tables. -/
structure Counts where
  books : Nat
  authors : Nat
  series : Nat
  genres : Nat
  bookAuthors : Nat
  booksFts : Nat
  deriving DecidableEq, Repr

/-- Counts the rows of all tables. -/
def Library.counts (lib : Library) : Except EngineError Counts := do
  lib.needTables [.books, .authors, .series, .genres, .bookAuthors, .booksFts]
  pure
    { books := lib.books.length
      authors := lib.authors.rows.length
      series := lib.series.rows.length
      genres := lib.genres.rows.length
      bookAuthors := lib.links.length
      booksFts := lib.index.length }

end BookCatalog
