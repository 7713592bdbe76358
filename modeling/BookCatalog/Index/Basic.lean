import BookCatalog.Index.Word
import BookCatalog.Query.Expression

/-!
# The full-text index

The index holds one row of texts for a book: title, annotation, the names of the authors and the
name of the series. A clause of an index expression asks for words that begin with its word, in one
column or in any.
-/

namespace BookCatalog.Index

open Query (Column Clause)

/-- The indexed texts of a book. -/
structure Texts where
  title : Option String
  annotation : Option String
  authors : String
  series : Option String
  deriving DecidableEq, Repr

/-- A row of the index. -/
structure Row where
  bookId : String
  texts : Texts
  deriving DecidableEq, Repr

/-- The text of a column; a missing one is empty. -/
def Texts.text (t : Texts) : Column → String
  | .title => t.title.getD ""
  | Column.annotation => t.annotation.getD ""
  | .authors => t.authors
  | .series => t.series.getD ""

/-- The words of the columns of a row. -/
structure Words where
  title : List (List Char)
  annotation : List (List Char)
  authors : List (List Char)
  series : List (List Char)

/-- The words of a column. -/
def Words.column (w : Words) : Column → List (List Char)
  | .title => w.title
  | Column.annotation => w.annotation
  | .authors => w.authors
  | .series => w.series

/-- The words of the texts of a row. -/
def Texts.words (t : Texts) : Words :=
  let cut (column : Column) := Index.words (t.text column).toList
  { title := cut .title
    annotation := cut Column.annotation
    authors := cut .authors
    series := cut .series }

/-- The number of words in all columns. -/
def Words.size (w : Words) : Nat :=
  w.title.length + w.annotation.length + w.authors.length + w.series.length

/-- A phrase begins here: its words follow each other, and the last one need only begin its word. -/
def beginsWith : List (List Char) → List (List Char) → Bool
  | [], _ => false
  | _ :: _, [] => false
  | [last], word :: _ => last.isPrefixOf word
  | first :: rest, word :: more => first == word && beginsWith rest more

/-- How often a phrase occurs in a text, added to `n`. -/
def occurrencesFrom (phrase : List (List Char)) (n : Nat) : List (List Char) → Nat
  | [] => n
  | word :: rest =>
    occurrencesFrom phrase (if beginsWith phrase (word :: rest) then n + 1 else n) rest

/-- What a clause looks for in one column: the index cuts the word of the clause as it cuts its
texts. -/
structure Phrase where
  column : Column
  words : List (List Char)

/-- How often a phrase occurs in a row. -/
def Phrase.occurrences (p : Phrase) (w : Words) : Nat :=
  occurrencesFrom p.words 0 (w.column p.column)

/-- The phrases of a clause, any of which must occur. -/
def phrasesOf : Clause → List Phrase
  | .anywhere word => Column.all.map fun column => ⟨column, words word⟩
  | .within column word => [⟨column, words word⟩]

/-- A row meets all clauses. -/
def meets (clauses : List Clause) (w : Words) : Bool :=
  clauses.all fun clause => (phrasesOf clause).any fun p => 0 < p.occurrences w

end BookCatalog.Index
