import BookCatalog.Query.Basic

/-!
# Index expressions

A query becomes a list of clauses that must all hold: a word that must begin some word in any of the
columns, or in one of them. `Query.expression` writes the clauses in the language of the index,
where `title:rose*` asks for a word that begins with `rose` in the title.
-/

namespace BookCatalog.Query

/-- One condition of an index expression. -/
inductive Clause where
  | anywhere (word : List Char)
  | within (column : Column) (word : List Char)
  deriving DecidableEq, Repr

/-- The conditions of a query: one for every distinct word of each kind. -/
def clauses (q : Query) : List Clause :=
  (distinct q.general).map .anywhere ++
    [Column.title, .authors, .series, Column.annotation].flatMap fun column =>
      (distinct (q.terms column)).map (.within column)

/-- A word as the start of the words that it matches; a star at the end is not doubled. -/
def starred (word : List Char) : List Char :=
  match word.getLast? with
  | some '*' | none => word
  | some _ => word ++ ['*']

/-- A word to be found in one column. -/
def columnTerm (word : List Char) (column : Column) : List Char :=
  column.name.toList ++ ':' :: starred word

/-- The written form of a condition. -/
def Clause.text : Clause → List Char
  | .anywhere word =>
    '(' :: Text.joinWith " OR ".toList (Column.all.map (columnTerm word)) ++ [')']
  | .within column word => columnTerm word column

/-- The written form of conditions that must all hold. -/
def expressionOf (cs : List Clause) : List Char :=
  Text.joinWith " AND ".toList (cs.map Clause.text)

/-- The index expression of a query, empty if it has no words. -/
def expression (q : Query) : List Char :=
  expressionOf q.clauses

/-- The text to look for when there is no expression: the remainder with its blanks tidied or, if
that is empty, the words without qualifier. -/
def fallback (q : Query) : List Char :=
  let tidy := Text.squeeze q.remainder
  if tidy.isEmpty then Text.joinWith [' '] (distinct q.general) else tidy

end BookCatalog.Query
