import BookCatalog.Query.Qualifier
import BookCatalog.Query.Word

/-!
# Parsed queries

A `Query` holds what is left of a text when its qualifiers are cut out, and the words to look for:
in any column, or in the one that a qualifier names. `Query.parse` builds it. A qualifier whose name
reads like that of a column but is none (a long `ſ` in `ſeries`) stays in the remainder.
-/

namespace BookCatalog

open Query

/-- A search text cut into words. -/
structure Query where
  remainder : List Char := []
  general : List (List Char) := []
  title : List (List Char) := []
  authors : List (List Char) := []
  series : List (List Char) := []
  annotation : List (List Char) := []
  deriving DecidableEq, Repr

namespace Query

/-- The words to look for in one column. -/
def terms (q : Query) : Column → List (List Char)
  | .title => q.title
  | Column.annotation => q.annotation
  | .authors => q.authors
  | .series => q.series

/-- What a piece leaves in the remainder. -/
def Segment.kept : Segment → List Char
  | .gap text => text
  | .qualifier q => if (Column.ofName? q.name).isSome then [] else q.source

/-- The words that a piece asks for in a column. -/
def Segment.terms (column : Column) : Segment → List (List Char)
  | .gap _ => []
  | .qualifier q =>
    if Column.ofName? q.name = some column then words (unquote q.value) else []

/-- The query that pieces make up. -/
def ofSegments (pieces : List Segment) : Query :=
  let remainder := pieces.flatMap Segment.kept
  { remainder
    general := words remainder
    title := pieces.flatMap (Segment.terms .title)
    authors := pieces.flatMap (Segment.terms .authors)
    series := pieces.flatMap (Segment.terms .series)
    annotation := pieces.flatMap (Segment.terms Column.annotation) }

/-- The query that a text is; a blank text is the empty query. -/
def parse (cs : List Char) : Query :=
  if cs.all Text.isBlank then {} else ofSegments (segments cs)

end Query

end BookCatalog
