import BookCatalog.Text.Lowercase

/-!
# The order of a result

`Order.resolve` turns the requested sort key and direction into an `Order`; ties always go by
ascending book id. Relevance needs a match in the index, and its natural direction is best first.
-/

namespace BookCatalog

/-- What a result is sorted by. -/
inductive SortKey where
  | title
  | year
  | dateAdded
  | rank
  deriving DecidableEq, Repr

/-- The order of a result; ties go by ascending id. -/
structure Order where
  key : SortKey
  descending : Bool
  deriving DecidableEq, Repr

/-- The column that a key sorts by. -/
def SortKey.column : SortKey → String
  | .title => "b.title"
  | .year => "b.year"
  | .dateAdded => "b.date_added"
  | .rank => "books_fts.rank"

/-- The order as the engine is told. -/
def Order.clause (o : Order) : String :=
  o.key.column ++ (if o.descending then " DESC" else " ASC") ++ ", b.id ASC"

/-- The order that a sort key and a direction ask for. Without a key, a match in the index sorts by
relevance. The rank of a better match is lower, so that relevance from the best down is ascending
rank. Unknown keys sort by title, and any direction but `desc` is ascending. -/
def Order.resolve (sortBy sortOrder : String) (matched : Bool) : Order :=
  let requested := Text.lowercase sortBy
  let direction := Text.lowercase sortOrder
  let key := if requested = "" && matched then "relevance" else requested
  if key = "relevance" && matched then ⟨.rank, !(direction = "desc" || direction = "")⟩
  else
    let descending : Bool := direction = "desc"
    if key = "year" then ⟨.year, descending⟩
    else if key = "date_added" then ⟨.dateAdded, descending⟩
    else ⟨.title, descending⟩

end BookCatalog
