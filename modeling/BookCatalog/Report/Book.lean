import BookCatalog.Calendar.Iso
import BookCatalog.Entry
import BookCatalog.Report.Json
import BookCatalog.Report.Markup
import BookCatalog.Search.Filter

/-!
# Reports on books

Books and pages of books as JSON and as tables.
-/

namespace BookCatalog

/-- A name and its number. -/
def Named.json (n : Named) : Json :=
  .object [("id", .integer n.id), ("name", .text n.name)]

/-- A field that is left out when there is nothing to say. -/
def optionalField (name : String) (n : Option Named) : List (String × Json) :=
  (n.map fun n => (name, n.json)).toList

/-- A book; its series and its genre come last. -/
def Book.json (b : Book) : Json :=
  .object
    ([("id", .text b.id), ("title", .text b.title), ("authors", .array (b.authors.map Named.json)),
      ("series_num", .integer b.seriesNum), ("year", .integer b.year),
      ("language", .text b.language), ("file_size", .integer b.fileSize),
      ("archive_path", .text b.archivePath), ("file_num", .text b.fileNum),
      ("format", .text b.format),
      ("date_added", b.dateAdded.elim .null fun d => .text d.iso), ("rating", .integer b.rating),
      ("annotation", .text b.annotation), ("created_at", .text b.createdAt),
      ("updated_at", .text b.updatedAt)] ++
      optionalField "series" b.series ++ optionalField "genre" b.genre)

/-- A page of books. -/
def Page.json (p : Page Book) : Json :=
  .object
    [("books", .array (p.items.map Book.json)), ("total", .integer p.total),
      ("limit", .integer p.limit), ("offset", .integer p.offset), ("has_more", .bool p.hasMore)]

/-- A text, or something else in its place if it is empty. -/
def orElse (s : String) (otherwise : Markup) : Markup :=
  if s = "" then otherwise else Markup.ofText s

/-- The series of a book with the book's number in it. -/
def Book.seriesLabel (b : Book) : Option String :=
  b.series.map fun s => if b.seriesNum = 0 then s.name else s!"{s.name} #{b.seriesNum}"

/-- The row of a book in a table of search results. -/
def Book.row (b : Book) : List Markup :=
  [Markup.ofText b.id, Markup.ofText b.title, orElse b.author [⟨.dim, "unknown"⟩],
    Markup.ofText (b.seriesLabel.getD ""),
    Markup.ofText (if b.year = 0 then "" else toString b.year),
    orElse b.language (Markup.ofText "?")]

/-- Search results as a table, and a line that says which part of all results it is. -/
def Page.printed (p : Page Book) : List Printed :=
  if p.items.isEmpty then [.line [⟨.yellow, "No results found."⟩]]
  else
    let more := if p.hasMore then ", more available" else ""
    [.table ["ID", "Title", "Author", "Series", "Year", "Lang"] (p.items.map Book.row),
      .line [⟨.plain, "\n"⟩,
        ⟨.dim, s!"{p.offset + 1}-{p.offset + p.items.length} of {p.total} result(s){more}"⟩]]

/-- A row of a book's description. -/
def detail (name value : String) : List Markup :=
  [Markup.ofText name, Markup.ofText value]

/-- A row that is left out if there is nothing to say. -/
def detail? (name : String) (value : Option String) : List (List Markup) :=
  (value.map (detail name)).toList

/-- A number that is worth saying. -/
def number? (n : Int) : Option String :=
  if n = 0 then none else some (toString n)

/-- A book described in a table. -/
def Book.printed (b : Book) : Printed :=
  .table ["Field", "Value"]
    ([detail "ID" b.id, detail "Title" b.title,
      detail "Author" (if b.author = "" then "unknown" else b.author)] ++
      detail? "Series" b.seriesLabel ++ detail? "Genre" (b.genre.map Named.name) ++
      detail? "Year" (number? b.year) ++
      [detail "Language" (if b.language = "" then "?" else b.language),
        detail "Format" (if b.format = "" then "?" else b.format),
        detail "Size" s!"{b.fileSize} bytes", detail "Archive" s!"{b.archivePath} / {b.fileNum}"] ++
      detail? "Rating" (number? b.rating) ++
      detail? "Annotation" (if b.annotation = "" then none else some b.annotation) ++
      detail? "Added" (b.dateAdded.map fun d => d.date.iso) ++ [detail "Updated" b.updatedAt])

/-- A page of names as a table, and a line that says how many there are in all. -/
def printedNames (what : String) (p : Page Named) : List Printed :=
  if p.items.isEmpty then [.line [⟨.yellow, s!"No {what} in the library."⟩]]
  else
    [.table ["ID", "Name"] (p.items.map fun n => detail (toString n.id) n.name),
      .line [⟨.plain, "\n"⟩, ⟨.dim, s!"{p.items.length} of {p.total} {what}"⟩]]

end BookCatalog
