import BookCatalog.Library.Basic
import BookCatalog.Search.Filter
import BookCatalog.Search.Pattern

/-!
# Looking things up

Single books by their id, single names by their number, and the names of one kind page by page in
alphabetical order.
-/

namespace BookCatalog

/-- A text with its ASCII letters in lower case. -/
def asciiLowercase (s : String) : String :=
  String.ofList (s.toList.map Pattern.asciiLower)

/-- Part of a list: some of its first items skipped, and then no more than `limit`. -/
def slice {α : Type} (limit offset : Int) (items : List α) : List α :=
  (items.drop offset.toNat).take limit.toNat

/-- A list in pieces of a length, of which only the last one may be shorter. -/
def pieces {α : Type} (size : Nat) (items : List α) : List (List α) :=
  (List.range ((items.length + size - 1) / size)).map fun (k : Nat) => slice size (k * size) items

/-- For how many books a statement asks at most. -/
def idsPerStatement : Nat := 500

/-- An author of a book, as a statement selects it. -/
structure Authorship where
  bookId : String
  author : Named
  deriving DecidableEq, Repr

/-- Books with one more author for the book that it belongs to, the last one if there are several
with its id. -/
def Book.credit : List Book → Authorship → List Book
  | [], _ => []
  | b :: rest, a =>
    if b.id = a.bookId && !rest.any (·.id = a.bookId) then
      { b with authors := b.authors ++ [a.author] } :: rest
    else b :: credit rest a

namespace Library

/-- An engine error that ended an action. -/
def during {α : Type} (action : Action) : Except EngineError α → Except Failure α
  | .ok a => .ok a
  | .error e => .error (.catalog action e)

/-- Refuses an argument that does not fit a column. -/
def needFits (args : List Int) : Except Failure Unit :=
  if args.all fitsColumn then .ok () else .error .integerTooLarge

/-- The order of authors: by name, and then by number. -/
def authorLe (a b : Named) : Bool :=
  a.name < b.name || (a.name == b.name && a.id ≤ b.id)

/-- Who wrote the books with some ids, in the order of the authors. -/
def authorships (lib : Library) (bookIds : List String) : List Authorship :=
  let links := lib.links.filter fun l => bookIds.contains l.bookId
  let rows := links.filterMap fun l => (lib.authors.byId? l.authorId).map (⟨l.bookId, ·⟩)
  rows.mergeSort fun a b => authorLe a.author b.author

/-- The name that a stored number refers to. -/
def nameOf? (d : Dimension) (id : Option Int) : Option Named :=
  id.bind d.byId?

/-- The book of a stored row, its authors left out. -/
def bookOf (lib : Library) (b : StoredBook) : Book :=
  b.book ((nameOf? lib.series b.seriesId).map Named.name)
    ((nameOf? lib.genres b.genreId).map Named.name)

/-- Books with their authors, who are asked for piece by piece. Where the same book is listed more
than once, the last one gets them. -/
def withAuthors (lib : Library) (books : List Book) : List Book :=
  let ids := (books.map (·.id)).eraseDups
  (pieces idsPerStatement ids).foldl
    (fun books ids => (lib.authorships ids).foldl Book.credit books)
    books

/-- Books with their authors; the tables of authors are needed only if there are books. -/
def hydrate (lib : Library) (books : List Book) : Except EngineError (List Book) := do
  if books.isEmpty then pure []
  else
    lib.needTables [.authors, .bookAuthors]
    pure (lib.withAuthors books)

/-- The book with an id. -/
def getBook (lib : Library) (id : String) : Except Failure (Option Book) :=
  during (.getBook id) do
    lib.needTables [.books, .series, .genres]
    match lib.books.find? (·.id = id) with
    | none => pure none
    | some b => pure (← lib.hydrate [lib.bookOf b]).head?

/-- The book with an id as it is handed over. The report of a failure names the id with replacement
characters for its halves. -/
def getGiven (lib : Library) (id : Given) : Except Failure (Option Book) :=
  match id.fault? with
  | none => lib.getBook id.text
  | some fault => do
    during (.getBook id.text) (lib.needTables [.books, .series, .genres])
    throw (.notUtf8 fault)

/-- The names of one kind in alphabetical order, ASCII case ignored. -/
def alphabetical (d : Dimension) : List Named :=
  let keyed := d.rows.map fun r => (asciiLowercase r.name, r)
  (keyed.mergeSort fun a b => a.1 < b.1 || (a.1 == b.1 && a.2.id ≤ b.2.id)).map Prod.snd

/-- One page of the names of a kind. -/
def list (lib : Library) (kind : Kind) (limit offset : Int) : Except Failure (Page Named) := do
  let limit := pageLimit limit
  let offset := pageOffset offset
  during (.list kind) (lib.needTables [kind.table])
  needFits [limit, offset]
  let d := lib.names kind
  pure
    { items := slice limit offset (alphabetical d)
      total := d.rows.length
      limit
      offset }

/-- The name with a number. -/
def load (lib : Library) (kind : Kind) (id : Int) : Except Failure (Option Named) := do
  during (.load kind id) (lib.needTables [kind.table])
  needFits [id]
  pure ((lib.names kind).byId? id)

end Library

end BookCatalog
