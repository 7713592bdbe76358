/-!
# Search filters

A `Filter` says which books to look for and which page of them to give. `Page` is the part of an
ordered result that a limit and an offset select.
-/

namespace BookCatalog

/-- The page size when none is asked for. -/
def defaultLimit : Int := 30

/-- What to search for: a query text, names that must match exactly, years, a page and an order.
Zero years and empty lists do not restrict. -/
structure Filter where
  query : String := ""
  authors : List String := []
  series : List String := []
  genres : List String := []
  languages : List String := []
  formats : List String := []
  yearFrom : Int := 0
  yearTo : Int := 0
  limit : Int := defaultLimit
  offset : Int := 0
  sortBy : String := ""
  sortOrder : String := ""
  deriving DecidableEq, Repr

/-- A page size; one that is not positive stands for the default. -/
def pageLimit (limit : Int) : Int :=
  if 0 < limit then limit else defaultLimit

/-- A number of rows to skip; a negative one skips none. -/
def pageOffset (offset : Int) : Int :=
  max offset 0

/-- One page of a longer result, and the size of the whole. -/
structure Page (α : Type) where
  items : List α
  total : Int
  limit : Int
  offset : Int
  deriving Repr

/-- More items lie behind this page. -/
def Page.hasMore {α : Type} (p : Page α) : Bool :=
  p.offset + p.limit < p.total

end BookCatalog
