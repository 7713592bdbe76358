import BookCatalog.Query.Expression
import BookCatalog.Search.Filter
import BookCatalog.Search.Order
import BookCatalog.Search.Statement

/-!
# Search plans

`Filter.plan` compiles a filter into the conditions that a book must meet, an order and a page. A
plan is written as a statement by `Plan.statement` and evaluated on a library elsewhere. A query
without words is looked for as it stands, as a part of the title, the annotation, the series or an
author.
-/

namespace BookCatalog

/-- A column that a filter restricts to given names. -/
inductive NameColumn where
  | author
  | series
  | genre
  | language
  | format
  deriving DecidableEq, Repr

/-- The column as a statement names it. -/
def NameColumn.source : NameColumn → String
  | .author => "a.name"
  | .series => "s.name"
  | .genre => "g.name"
  | .language => "b.language"
  | .format => "b.format"

/-- A condition of a search. -/
inductive Criterion where
  | indexed (clauses : List Query.Clause)
  | containing (text : List Char)
  | named (column : NameColumn) (names : List String)
  | yearFrom (year : Int)
  | yearTo (year : Int)
  deriving DecidableEq, Repr

/-- A text as a pattern that matches exactly itself: the wildcards and the backslash are escaped. -/
def escapePattern (cs : List Char) : List Char :=
  cs.flatMap fun c => if c = '\\' ∨ c = '%' ∨ c = '_' then ['\\', c] else [c]

/-- The pattern of the texts that contain a text. -/
def containsPattern (cs : List Char) : List Char :=
  '%' :: escapePattern (Text.lower cs) ++ ['%']

/-- The condition that a pattern occurs in one of a book's texts. -/
def containsCondition : String :=
  "(LOWER(b.title) LIKE ? ESCAPE '\\' OR LOWER(b.annotation) LIKE ? ESCAPE '\\' " ++
    "OR LOWER(a.name) LIKE ? ESCAPE '\\' OR LOWER(s.name) LIKE ? ESCAPE '\\')"

/-- A compiled search. -/
structure Plan where
  criteria : List Criterion
  order : Order
  limit : Int
  offset : Int
  deriving DecidableEq, Repr

/-- A condition that looks at the index. -/
def Criterion.usesIndex : Criterion → Bool
  | .indexed _ => true
  | _ => false

/-- A condition that looks at the authors. -/
def Criterion.usesAuthors : Criterion → Bool
  | .containing _ => true
  | .named .author _ => true
  | _ => false

/-- A condition with the joins that it needs added to a statement. -/
def Criterion.addTo (s : Statement) : Criterion → Statement
  | .indexed clauses =>
    s.joinIndex.require "books_fts MATCH ?" [.text (String.ofList (Query.expressionOf clauses))]
  | .containing text =>
    s.joinAuthors.require containsCondition
      (List.replicate 4 (.text (String.ofList (containsPattern text))))
  | .named .author names => s.joinAuthors.requireIn NameColumn.author.source (names.map .text)
  | .named column names => s.requireIn column.source (names.map .text)
  | .yearFrom year => s.require "b.year >= ?" [.integer year]
  | .yearTo year => s.require "b.year <= ?" [.integer year]

namespace Plan

/-- The plan looks at the index. -/
def usesIndex (p : Plan) : Bool := p.criteria.any Criterion.usesIndex

/-- The plan looks at the authors. -/
def usesAuthors (p : Plan) : Bool := p.criteria.any Criterion.usesAuthors

/-- The statement of a plan. -/
def statement (p : Plan) : Statement :=
  p.criteria.foldl Criterion.addTo {}

/-- The query for the page of a plan. -/
def page (p : Plan) : Bound :=
  p.statement.page p.order.clause (.integer p.limit) (.integer p.offset)

/-- The count of a plan. -/
def count (p : Plan) : Bound := p.statement.count

end Plan

/-- The condition that a query text asks for, if any. -/
def queryCriteria (text : String) : List Criterion :=
  if text.toList.all Text.isBlank then []
  else
    let query := Query.parse text.toList
    if !query.clauses.isEmpty then [.indexed query.clauses]
    else if !query.fallback.isEmpty then [.containing query.fallback]
    else []

/-- The condition that names are given for a column, if any are. -/
def nameCriteria (column : NameColumn) (names : List String) : List Criterion :=
  if names.isEmpty then [] else [.named column names]

/-- The conditions of a filter. -/
def Filter.criteria (f : Filter) : List Criterion :=
  queryCriteria f.query ++
    nameCriteria .author f.authors ++ nameCriteria .series f.series ++
    nameCriteria .genre f.genres ++ nameCriteria .language f.languages ++
    nameCriteria .format f.formats ++
    (if 0 < f.yearFrom then [.yearFrom f.yearFrom] else []) ++
    (if 0 < f.yearTo then [.yearTo f.yearTo] else [])

/-- The search that a filter asks for. -/
def Filter.plan (f : Filter) : Plan :=
  let criteria := f.criteria
  { criteria
    order := Order.resolve f.sortBy f.sortOrder (criteria.any Criterion.usesIndex)
    limit := pageLimit f.limit
    offset := pageOffset f.offset }

end BookCatalog
