import BookCatalog.Index.Rank
import BookCatalog.Library.Lookup
import BookCatalog.Search.Given

/-!
# Searching a library

`Library.search` evaluates a plan: the books whose rows meet all conditions are counted, ordered and
cut to a page. A book is joined with its series and genre and, where the plan asks for it, with its
index rows and its authors; a condition on the authors holds of a book if it holds with one of them.

The engine refuses a pattern that is too long when it looks at it. In which order it looks at the
conditions is its own affair, and may be another one for counting than for the page. An `Engine` is
such an order.
-/

namespace BookCatalog

/-- A row of the index, its words, and its rank in the search at hand. -/
structure Hit where
  row : Index.Row
  words : Index.Words
  rank : Float

/-- A book joined with what a search looks at. -/
structure Joined where
  book : StoredBook
  series : Option Named
  genre : Option Named
  hit : Option Hit
  author : Option Named

namespace Joined

/-- The value of a column of names; nothing if the book has none. -/
def name? (j : Joined) : NameColumn → Option String
  | .author => j.author.map Named.name
  | .series => j.series.map Named.name
  | .genre => j.genre.map Named.name
  | .language => j.book.language
  | .format => j.book.format

/-- The texts that a search for a part of a text looks at. -/
def texts (j : Joined) : List (Option String) :=
  [some j.book.title, j.book.annotation, j.author.map Named.name, j.series.map Named.name]

end Joined

/-- A pattern matches a text that may be missing, its ASCII letters in lower case. -/
def fitsText (pattern : List Char) (s : Option String) : Bool :=
  s.any fun s => Pattern.fits pattern (s.toList.map Pattern.asciiLower)

/-- A joined row meets a condition. A missing value meets none. -/
def Criterion.holds (j : Joined) : Criterion → Bool
  | .indexed clauses => j.hit.any fun h => Index.meets clauses h.words
  | .containing text => j.texts.any (fitsText (containsPattern text))
  | .named column names => (j.name? column).any names.contains
  | .yearFrom year => j.book.year.any (year ≤ ·)
  | .yearTo year => j.book.year.any (· ≤ year)

/-- The pattern of a condition is longer than the engine takes. -/
def Criterion.isTooComplex : Criterion → Bool
  | .containing text => Pattern.isTooComplex (containsPattern text)
  | _ => false

/-- The integers that a condition binds. -/
def Criterion.integers : Criterion → List Int
  | .yearFrom year | .yearTo year => [year]
  | _ => []

namespace Plan

/-- The tables that a plan reads, in the order in which they are joined. -/
def tables (p : Plan) : List Table :=
  [.books, .series, .genres] ++ (if p.usesIndex then [.booksFts] else []) ++
    (if p.usesAuthors then [.bookAuthors, .authors] else [])

/-- The index expression of a plan. -/
def clauses (p : Plan) : List Query.Clause :=
  p.criteria.flatMap fun
    | .indexed clauses => clauses
    | _ => []

/-- The integers that the conditions of a plan bind. -/
def integers (p : Plan) : List Int :=
  p.criteria.flatMap Criterion.integers

/-- The conditions of a plan hold of a row. -/
def accepts (p : Plan) (j : Joined) : Bool :=
  p.criteria.all (Criterion.holds j)

/-- The plan has a pattern that is too long, and a row meets all other conditions, so that every
engine looks at the pattern. -/
def refuses (p : Plan) (j : Joined) : Bool :=
  p.criteria.any Criterion.isTooComplex &&
    p.criteria.all fun c => c.isTooComplex || c.holds j

end Plan

/-- The statements of a search: one that counts, and one that gives a page. -/
inductive Stage where
  | count
  | page
  deriving DecidableEq, Repr

/-- When the engine refuses the rows that are joined for a plan: if some row meets all conditions
besides the pattern, and at most if there is a pattern that is too long and a book that it may be
looked for in. -/
structure Engine where
  refuses : Stage → Plan → List (List Joined) → Bool
  refuses_of_exposed : ∀ stage (p : Plan) (rows : List (List Joined)),
    rows.any (·.any p.refuses) = true → refuses stage p rows = true
  exposed_of_refuses : ∀ stage (p : Plan) (rows : List (List Joined)),
    refuses stage p rows = true → p.criteria.any Criterion.isTooComplex = true ∧ rows ≠ []

/-- The engine that looks at patterns only when all other conditions are met. -/
def Engine.lazy : Engine where
  refuses _ p rows := rows.any (·.any p.refuses)
  refuses_of_exposed _ _ _ exposed := exposed
  exposed_of_refuses _ p rows exposed := by
    obtain ⟨group, listed, exposed⟩ := List.any_eq_true.1 exposed
    obtain ⟨j, -, refused⟩ := List.any_eq_true.1 exposed
    exact ⟨(Bool.and_eq_true_iff.1 refused).1, List.ne_nil_of_mem listed⟩

/-- The order of two values that may be missing; a missing one comes first. -/
def compareMissing {α : Type} [Ord α] : Option α → Option α → Ordering
  | none, none => .eq
  | none, some _ => .lt
  | some _, none => .gt
  | some a, some b => compare a b

/-- The sign of a rank, as the highest of its bits. -/
def signBit : Nat := 9223372036854775808

/-- The place of a rank among all ranks: its bits, read as a number with a sign. Both zeros have one
place. -/
def rankPlace (rank : Float) : Int :=
  let bits := rank.toBits.toNat
  if bits < signBit then bits else (signBit : Int) - bits

/-- The order of two ranks. -/
def compareRanks (a b : Float) : Ordering :=
  compare (rankPlace a) (rankPlace b)

/-- The order of two rows by a key. -/
def SortKey.compare (a b : Joined) : SortKey → Ordering
  | .title => Ord.compare a.book.title b.book.title
  | .year => compareMissing a.book.year b.book.year
  | .dateAdded => compareMissing a.book.dateAdded b.book.dateAdded
  | .rank => compareRanks ((a.hit.map Hit.rank).getD 0.0) ((b.hit.map Hit.rank).getD 0.0)

/-- A row does not come behind another one. -/
def Order.puts (o : Order) (a b : Joined) : Bool :=
  match o.key.compare a b with
  | .lt => !o.descending
  | .gt => o.descending
  | .eq => a.book.id ≤ b.book.id

namespace Library

/-- The rows of the index with their words and their ranks. -/
def hits (lib : Library) (p : Plan) : List Hit :=
  if p.usesIndex then
    let words := lib.index.map (·.texts.words)
    let ranks :=
      if p.order.key = .rank then Index.ranks p.clauses words else words.map fun _ => 0.0
    (lib.index.zip (words.zip ranks)).map fun (row, words, rank) => ⟨row, words, rank⟩
  else []

/-- A choice of one of several rows, or of none if there are no rows. -/
def orNone {α : Type} (rows : List α) : List (Option α) :=
  if rows.isEmpty then [none] else rows.map some

/-- The rows of a book, joined as a plan asks for. A book without authors has one row without
author, and a book that is not in the index has no row in a search that looks at it. -/
def joined (lib : Library) (p : Plan) (hits : List Hit) (b : StoredBook) : List Joined :=
  let series := nameOf? lib.series b.seriesId
  let genre := nameOf? lib.genres b.genreId
  let hits : List (Option Hit) :=
    if p.usesIndex then (hits.filter (·.row.bookId = b.id)).map some else [none]
  let authors : List (Option Named) :=
    if p.usesAuthors then
      orNone ((lib.links.filter (·.bookId = b.id)).filterMap fun l => lib.authors.byId? l.authorId)
    else [none]
  hits.flatMap fun hit => authors.map fun author => ⟨b, series, genre, hit, author⟩

/-- The rows of a book that meet the conditions; with the authors joined, they are one. -/
def matching (p : Plan) (rows : List Joined) : List Joined :=
  let rows := rows.filter p.accepts
  if p.usesAuthors then rows.take 1 else rows

/-- The joined rows of every book. -/
def candidates (lib : Library) (p : Plan) : List (List Joined) :=
  let hits := lib.hits p
  lib.books.map (lib.joined p hits)

/-- Refuses a plan whose pattern is too long, if the engine looks at it. -/
def needSimple (p : Plan) (rows : List (List Joined)) (engine : Engine := .lazy)
    (stage : Stage := .count) : Except EngineError Unit :=
  if engine.refuses stage p rows then .error .patternTooComplex else .ok ()

/-- Counts the books that a plan selects. -/
def count (lib : Library) (p : Plan) (rows : List (List Joined)) (engine : Engine := .lazy) :
    Except Failure Nat := do
  during .count (lib.needTables p.tables)
  needFits p.integers
  during .count (needSimple p rows engine)
  pure (rows.countP (·.any p.accepts))

/-- The rows of a plan's page, in order. -/
def pageRows (p : Plan) (rows : List (List Joined)) : List Joined :=
  slice p.limit p.offset ((rows.flatMap (matching p)).mergeSort p.order.puts)

/-- The books that a filter selects: one page of them, and how many there are in all. Engines differ
in the patterns that they refuse, and not in what they find (`search_lazy`). -/
def search (lib : Library) (f : Filter) (engine : Engine := .lazy) :
    Except Failure (Page Book) := do
  let p := f.plan
  let rows := lib.candidates p
  let total ← lib.count p rows engine
  during .search (lib.needTables p.tables)
  needFits (p.integers ++ [p.limit, p.offset])
  during .search (needSimple p rows engine .page)
  let books := (pageRows p rows).map fun j =>
    j.book.book (j.series.map Named.name) (j.genre.map Named.name)
  let books ← during .search (lib.hydrate books)
  pure { items := books, total, limit := p.limit, offset := p.offset }

/-- The books that a filter selects as it is handed over. Its texts are bound before its
integers. -/
def searchGiven (lib : Library) (g : GivenFilter) (engine : Engine := .lazy) :
    Except Failure (Page Book) :=
  match g.fault? with
  | none => lib.search g.filter engine
  | some fault => do
    during .count (lib.needTables g.filter.plan.tables)
    throw (.notUtf8 fault)

end Library

end BookCatalog
