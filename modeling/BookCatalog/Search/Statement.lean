import BookCatalog.Value

/-!
# Search statements

A `Statement` collects the joins, conditions and arguments of a search and is written out twice: as
the query for a page of books and as the count of all of them. Both have the same conditions, and
every value is an argument for a placeholder, never part of the text.
-/

namespace BookCatalog

/-- The columns that a book is read from. -/
def selectedColumns : String :=
  "b.id, b.title, b.series_id, b.series_num, b.genre_id, b.year, " ++
    "b.language, b.file_size, b.archive_path, b.file_num, b.format, " ++
    "b.date_added, b.rating, b.annotation, b.created_at, b.updated_at, " ++
    "s.name AS series_name, g.name AS genre_name"

/-- The join of the series of a book. -/
def seriesJoin : String := "LEFT JOIN series s ON b.series_id = s.id"

/-- The join of the genre of a book. -/
def genreJoin : String := "LEFT JOIN genres g ON b.genre_id = g.id"

/-- The joins of the authors of a book, one row for each. -/
def authorJoins : List String :=
  ["LEFT JOIN book_authors ba ON b.id = ba.book_id", "LEFT JOIN authors a ON ba.author_id = a.id"]

/-- The join of the index row of a book. -/
def indexJoin : String := "JOIN books_fts ON books_fts.book_id = b.id"

/-- The parts of a search that its page and its count have in common. -/
structure Statement where
  joins : List String := [seriesJoin, genreJoin]
  conditions : List String := []
  args : List Value := []
  authorsJoined : Bool := false
  deriving DecidableEq, Repr

/-- A written statement and the values of its placeholders. -/
structure Bound where
  text : String
  args : List Value
  deriving DecidableEq, Repr

namespace Statement

/-- Joins the authors, at most once. -/
def joinAuthors (s : Statement) : Statement :=
  if s.authorsJoined then s
  else { s with joins := s.joins ++ authorJoins, authorsJoined := true }

/-- Joins the index. -/
def joinIndex (s : Statement) : Statement :=
  { s with joins := s.joins ++ [indexJoin] }

/-- Adds a condition and the values of its placeholders. -/
def require (s : Statement) (condition : String) (args : List Value) : Statement :=
  { s with conditions := s.conditions ++ [condition], args := s.args ++ args }

/-- A list of placeholders. -/
def placeholders (n : Nat) : String :=
  String.intercalate ", " (List.replicate n "?")

/-- Adds the condition that a column has one of the given values, unless none is given. -/
def requireIn (s : Statement) (column : String) (values : List Value) : Statement :=
  if values.isEmpty then s
  else s.require (column ++ " IN (" ++ placeholders values.length ++ ")") values

/-- The part from `FROM` to the last condition. -/
def body (s : Statement) : String :=
  " FROM books b" ++ String.join (s.joins.map (" " ++ ·)) ++
    if s.conditions.isEmpty then "" else " WHERE " ++ String.intercalate " AND " s.conditions

/-- The query for a page; with the authors joined, a book's rows are grouped into one. -/
def page (s : Statement) (order : String) (limit offset : Value) : Bound :=
  { text := "SELECT " ++ selectedColumns ++ s.body ++
      (if s.authorsJoined then " GROUP BY b.id" else "") ++
      " ORDER BY " ++ order ++ " LIMIT ? OFFSET ?"
    args := s.args ++ [limit, offset] }

/-- The count of the books that the conditions select. -/
def count (s : Statement) : Bound :=
  { text := "SELECT COUNT(DISTINCT b.id)" ++ s.body, args := s.args }

end Statement

end BookCatalog
