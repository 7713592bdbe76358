import BookCatalog.Search.Plan
import BookCatalog.Text.Given

/-!
# Filters as they are handed over

The texts of a filter may hold halves of surrogate pairs. Most of them are bound as they are. A
query is cut into words, which never hold halves; only where it has no words and is looked for as it
stands, the halves that are left in it are bound with it. `GivenFilter.fault?` says whether the
texts of a filter can be bound.
-/

namespace BookCatalog

/-- A filter with texts as a caller gives them. -/
structure GivenFilter where
  query : Given := .ofText ""
  authors : List Given := []
  series : List Given := []
  genres : List Given := []
  languages : List Given := []
  formats : List Given := []
  yearFrom : Int := 0
  yearTo : Int := 0
  limit : Int := defaultLimit
  offset : Int := 0
  sortBy : Given := .ofText ""
  sortOrder : Given := .ofText ""
  deriving DecidableEq, Repr

/-- A filter as it is handed over. -/
def Filter.given (f : Filter) : GivenFilter :=
  { query := .ofText f.query
    authors := f.authors.map .ofText
    series := f.series.map .ofText
    genres := f.genres.map .ofText
    languages := f.languages.map .ofText
    formats := f.formats.map .ofText
    yearFrom := f.yearFrom
    yearTo := f.yearTo
    limit := f.limit
    offset := f.offset
    sortBy := .ofText f.sortBy
    sortOrder := .ofText f.sortOrder }

/-- The symbols of a query that its pieces keep in the remainder. -/
def Query.keptSymbols : List Query.Segment → List Symbol → List Symbol
  | [], _ => []
  | piece :: rest, symbols =>
    let (own, behind) := symbols.splitAt piece.source.length
    (if piece.kept.isEmpty then [] else own) ++ keptSymbols rest behind

namespace GivenFilter

/-- The filter that is left when the halves in the texts are replaced. -/
def filter (g : GivenFilter) : Filter :=
  { query := g.query.text
    authors := g.authors.map Given.text
    series := g.series.map Given.text
    genres := g.genres.map Given.text
    languages := g.languages.map Given.text
    formats := g.formats.map Given.text
    yearFrom := g.yearFrom
    yearTo := g.yearTo
    limit := g.limit
    offset := g.offset
    sortBy := g.sortBy.text
    sortOrder := g.sortOrder.text }

/-- What the replacement characters in the remainder of the query stand for, in order. -/
def marks (g : GivenFilter) : List Symbol :=
  (Query.keptSymbols (Query.segments g.filter.query.toList) g.query.symbols).filter
    (·.shown = Text.replacement)

/-- The patterns of the query, if it is looked for as it stands. -/
def patterns (g : GivenFilter) : List Given :=
  (queryCriteria g.filter.query).flatMap fun
    | .containing text => List.replicate 4 ⟨Given.restore g.marks (containsPattern text)⟩
    | _ => []

/-- The texts that a search binds besides an index expression, which holds no halves, in order. -/
def texts (g : GivenFilter) : List Given :=
  g.patterns ++ g.authors ++ g.series ++ g.genres ++ g.languages ++ g.formats

/-- Why the texts of a filter cannot be bound, if they cannot. -/
def fault? (g : GivenFilter) : Option EncodingFault :=
  g.texts.findSome? Given.fault?

end GivenFilter

end BookCatalog
