import BookCatalog.Calendar.Iso
import BookCatalog.Entry
import BookCatalog.Value

/-!
# Rows of books

A stored book is a row of columns. `Submission.values` gives the columns that a submission fills in,
and `Book.ofRow?` reads a book back from a selected row: missing numbers are zero, missing texts
empty, and a date that cannot be read is none.
-/

namespace BookCatalog

/-- A book as its table holds it. -/
structure StoredBook where
  id : String
  title : String
  seriesId : Option Int
  seriesNum : Option Int
  genreId : Option Int
  year : Option Int
  language : Option String
  fileSize : Option Int
  archivePath : Option String
  fileNum : Option String
  format : Option String
  dateAdded : Option String
  rating : Option Int
  annotation : Option String
  createdAt : String
  updatedAt : String
  deriving DecidableEq, Repr

namespace Submission

/-- The columns of a submission in the order of the table, with the numbers of its series and
genre. -/
def values (s : Submission) (seriesId genreId : Option Int) : List Value :=
  [.text s.id, .ofText? s.title, .ofInt? seriesId, .ofInt? s.seriesNum, .ofInt? genreId,
    .ofInt? s.year, .ofText? s.language, .ofInt? s.fileSize, .ofText? s.archivePath,
    .ofText? s.fileNum, .ofText? s.format, .ofText? (s.date.map DateTime.iso), .ofInt? s.rating,
    .ofText? s.annotation]

/-- Every integer that a submission brings with it fits its column; the numbers of names always
do. -/
def fits (s : Submission) : Bool :=
  (s.values none none).all Value.fits

/-- The row of a submission, written at the time `now`; a book without a title has none. -/
def stored? (s : Submission) (seriesId genreId : Option Int) (now : String) : Option StoredBook :=
  s.title.map fun title =>
    { id := s.id
      title
      seriesId
      seriesNum := s.seriesNum
      genreId
      year := s.year
      language := s.language
      fileSize := s.fileSize
      archivePath := s.archivePath
      fileNum := s.fileNum
      format := s.format
      dateAdded := s.date.map DateTime.iso
      rating := s.rating
      annotation := s.annotation
      createdAt := now
      updatedAt := now }

end Submission

/-- A column of a selected book. -/
inductive BookColumn where
  | id | title | seriesId | seriesNum | genreId | year | language | fileSize | archivePath | fileNum
  | format | dateAdded | rating | annotation | createdAt | updatedAt | seriesName | genreName
  deriving DecidableEq, Repr

/-- The name of a column. -/
def BookColumn.name : BookColumn → String
  | .id => "id"
  | .title => "title"
  | .seriesId => "series_id"
  | .seriesNum => "series_num"
  | .genreId => "genre_id"
  | .year => "year"
  | .language => "language"
  | .fileSize => "file_size"
  | .archivePath => "archive_path"
  | .fileNum => "file_num"
  | .format => "format"
  | .dateAdded => "date_added"
  | .rating => "rating"
  | BookColumn.annotation => "annotation"
  | .createdAt => "created_at"
  | .updatedAt => "updated_at"
  | .seriesName => "series_name"
  | .genreName => "genre_name"

/-- Why a row is not a book. -/
inductive RowError where
  | missing (column : BookColumn)
  | dateNotText
  | illTyped (column : BookColumn)
  deriving DecidableEq, Repr

/-- The text of an error. -/
def RowError.message : RowError → String
  | .missing column => "'" ++ column.name ++ "'"
  | .dateNotText => "fromisoformat: argument must be str"
  | .illTyped column => "unexpected value in column " ++ column.name

/-- A selected row: the value of each of its columns, `none` for a column that it lacks. -/
abbrev Row := BookColumn → Option Value

namespace Row

/-- The value of a column. -/
def value (row : Row) (column : BookColumn) : Except RowError Value :=
  match row column with
  | some v => .ok v
  | none => .error (.missing column)

/-- A number; nothing stands for zero. -/
def number (row : Row) (column : BookColumn) : Except RowError Int := do
  match ← row.value column with
  | .null => pure 0
  | .integer n => pure n
  | .text _ => .error (.illTyped column)

/-- A text; nothing stands for the empty text. -/
def text (row : Row) (column : BookColumn) : Except RowError String := do
  match ← row.value column with
  | .null => pure ""
  | .integer _ => .error (.illTyped column)
  | .text s => pure s

/-- A text that must be there. -/
def requiredText (row : Row) (column : BookColumn) : Except RowError String := do
  match ← row.value column with
  | .text s => pure s
  | _ => .error (.illTyped column)

/-- A date; nothing, the empty text and an unreadable text stand for none. -/
def date (row : Row) (column : BookColumn) : Except RowError (Option DateTime) := do
  match ← row.value column with
  | .null => pure none
  | .integer n => if n = 0 then pure none else .error .dateNotText
  | .text s => pure (DateTime.ofIso? s)

/-- A series or a genre: its number and its name, unless one of them is missing. The name is looked
at only if there is a number. -/
def named (row : Row) (idColumn nameColumn : BookColumn) : Except RowError (Option Named) := do
  match ← row.value idColumn with
  | .null => pure none
  | .text _ => .error (.illTyped idColumn)
  | .integer id =>
    match ← row.value nameColumn with
    | .null => pure none
    | .integer _ => .error (.illTyped nameColumn)
    | .text name => pure (some ⟨id, name⟩)

end Row

/-- The book of a selected row, without its authors. -/
def Book.ofRow? (row : Row) : Except RowError Book := do
  let series ← row.named .seriesId .seriesName
  let genre ← row.named .genreId .genreName
  let id ← row.requiredText .id
  let title ← row.requiredText .title
  let seriesNum ← row.number .seriesNum
  let year ← row.number .year
  let language ← row.text .language
  let fileSize ← row.number .fileSize
  let archivePath ← row.text .archivePath
  let fileNum ← row.text .fileNum
  let format ← row.text .format
  let dateAdded ← row.date .dateAdded
  let rating ← row.number .rating
  let annotation ← row.text BookColumn.annotation
  let createdAt ← row.text .createdAt
  let updatedAt ← row.text .updatedAt
  pure
    { id, title, series, seriesNum, genre, year, language, fileSize, archivePath, fileNum, format,
      dateAdded, rating, annotation, createdAt, updatedAt }

/-- The selected row of a stored book, with the names of its series and genre if they were found. -/
def StoredBook.row (b : StoredBook) (seriesName genreName : Option String) : Row
  | .id => some (.text b.id)
  | .title => some (.text b.title)
  | .seriesId => some (.ofInt? b.seriesId)
  | .seriesNum => some (.ofInt? b.seriesNum)
  | .genreId => some (.ofInt? b.genreId)
  | .year => some (.ofInt? b.year)
  | .language => some (.ofText? b.language)
  | .fileSize => some (.ofInt? b.fileSize)
  | .archivePath => some (.ofText? b.archivePath)
  | .fileNum => some (.ofText? b.fileNum)
  | .format => some (.ofText? b.format)
  | .dateAdded => some (.ofText? b.dateAdded)
  | .rating => some (.ofInt? b.rating)
  | BookColumn.annotation => some (.ofText? b.annotation)
  | .createdAt => some (.text b.createdAt)
  | .updatedAt => some (.text b.updatedAt)
  | .seriesName => some (.ofText? seriesName)
  | .genreName => some (.ofText? genreName)

/-- A number with the name that was found for it, unless one of them is missing. -/
def resolved (id : Option Int) (name : Option String) : Option Named :=
  match id, name with
  | some id, some name => some ⟨id, name⟩
  | _, _ => none

/-- The book of a stored row, with the names of its series and genre if they were found; its authors
are left out. -/
def StoredBook.book (b : StoredBook) (seriesName genreName : Option String) : Book :=
  { id := b.id
    title := b.title
    series := resolved b.seriesId seriesName
    seriesNum := b.seriesNum.getD 0
    genre := resolved b.genreId genreName
    year := b.year.getD 0
    language := b.language.getD ""
    fileSize := b.fileSize.getD 0
    archivePath := b.archivePath.getD ""
    fileNum := b.fileNum.getD ""
    format := b.format.getD ""
    dateAdded := b.dateAdded.bind DateTime.ofIso?
    rating := b.rating.getD 0
    annotation := b.annotation.getD ""
    createdAt := b.createdAt
    updatedAt := b.updatedAt }

namespace Row

/-- A number is read back, and a missing one is read as zero. -/
theorem number_ofInt? {row : Row} {c : BookColumn} {n : Option Int} (h : row c = some (.ofInt? n)) :
    row.number c = .ok (n.getD 0) := by
  cases n <;> simp [number, value, h, Value.ofInt?, bind, Except.bind, pure, Except.pure]

/-- A text is read back, and a missing one is read as empty. -/
theorem text_ofText? {row : Row} {c : BookColumn} {s : Option String}
    (h : row c = some (.ofText? s)) : row.text c = .ok (s.getD "") := by
  cases s <;> simp [text, value, h, Value.ofText?, bind, Except.bind, pure, Except.pure]

/-- A text that is never missing is read back. -/
theorem text_text {row : Row} {c : BookColumn} {s : String} (h : row c = some (.text s)) :
    row.text c = .ok s := by
  simp [text, value, h, bind, Except.bind, pure, Except.pure]

/-- A text that must not be missing is read back. -/
theorem requiredText_text {row : Row} {c : BookColumn} {s : String} (h : row c = some (.text s)) :
    row.requiredText c = .ok s := by
  simp [requiredText, value, h, bind, Except.bind, pure, Except.pure]

/-- A date is read from its text, if there is one that is a date. -/
theorem date_ofText? {row : Row} {c : BookColumn} {s : Option String}
    (h : row c = some (.ofText? s)) : row.date c = .ok (s.bind DateTime.ofIso?) := by
  cases s <;> simp [date, value, h, Value.ofText?, bind, Except.bind, pure, Except.pure]

/-- A number and the name that it stands for are read back together. -/
theorem named_resolved {row : Row} {c d : BookColumn} {id : Option Int} {name : Option String}
    (hc : row c = some (.ofInt? id)) (hd : row d = some (.ofText? name)) :
    row.named c d = .ok (resolved id name) := by
  cases id <;> cases name <;>
    simp [named, value, hc, hd, Value.ofInt?, Value.ofText?, resolved, bind, Except.bind, pure,
      Except.pure]

end Row

/-- Reading the row of a stored book never fails and gives its book. -/
theorem Book.ofRow?_row (b : StoredBook) (seriesName genreName : Option String) :
    Book.ofRow? (b.row seriesName genreName) = .ok (b.book seriesName genreName) := by
  rw [Book.ofRow?, Row.named_resolved (c := .seriesId) (d := .seriesName) rfl rfl,
    Row.named_resolved (c := .genreId) (d := .genreName) rfl rfl,
    Row.requiredText_text (c := .id) rfl, Row.requiredText_text (c := .title) rfl,
    Row.number_ofInt? (c := .seriesNum) rfl, Row.number_ofInt? (c := .year) rfl,
    Row.text_ofText? (c := .language) rfl, Row.number_ofInt? (c := .fileSize) rfl,
    Row.text_ofText? (c := .archivePath) rfl, Row.text_ofText? (c := .fileNum) rfl,
    Row.text_ofText? (c := .format) rfl, Row.date_ofText? (c := .dateAdded) rfl,
    Row.number_ofInt? (c := .rating) rfl, Row.text_ofText? (c := BookColumn.annotation) rfl,
    Row.text_text (c := .createdAt) rfl, Row.text_text (c := .updatedAt) rfl]
  rfl

end BookCatalog
