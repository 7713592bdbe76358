import BookCatalog.Proofs.Query.Expression

/-!
# What an index expression asks of a row

The tree of an expression is a condition on the words of a row. `Tree.holds?` says which one it is
for the trees that queries lead to: starred texts, in all columns or in some of them, and such
conditions with `OR` or `AND` between them. The expression of a query asks of a row exactly that it
meets the clauses of the query (`holds_expression`).
-/

namespace BookCatalog

namespace Index

open Query (Column)

/-- A column is among those that something is looked for in. -/
def Scope.admits (s : Scope) (column : Column) : Bool :=
  s.columns.contains column.name != s.except

/-- Whether a tree holds of the words of a row. It is not said of other phrases than single starred
texts. -/
def Tree.holds? (w : Words) : Tree → Option Bool
  | .phrase scope false [⟨text, true⟩] =>
    some (Column.all.any fun column =>
      scope.all (·.admits column) && decide (0 < (Phrase.mk column (words text)).occurrences w))
  | .or left right => do pure ((← left.holds? w) || (← right.holds? w))
  | .and left right => do pure ((← left.holds? w) && (← right.holds? w))
  | _ => none

/-- Whether an index expression holds of the words of a row, if it is one. -/
def holds? (expression : List Char) (w : Words) : Option Bool :=
  (read expression).bind (·.holds? w)

end Index

namespace Query

open Index (Phrase phrasesOf)

variable {w : Index.Words} {clauses : List Clause}

/-- A term asks for its word in its column. -/
lemma holds?_termTree (word : List Char) (column : Column) :
    (termTree word column).holds? w =
      some (decide (0 < (Phrase.mk column (Index.words word)).occurrences w)) := by
  cases column <;>
    simp [termTree, Index.Tree.holds?, Index.Scope.admits, Column.all, Column.name]

/-- A clause asks that one of its phrases occurs. -/
lemma holds?_clauseTree (clause : Clause) :
    (clauseTree clause).holds? w = some ((phrasesOf clause).any fun p => 0 < p.occurrences w) := by
  cases clause with
  | anywhere word =>
    simp [clauseTree, Index.Tree.holds?, holds?_termTree, phrasesOf, Column.all, Bool.or_assoc]
  | within column word => simp [clauseTree, holds?_termTree, phrasesOf]

/-- A condition with clauses behind it asks for itself and for all of them. -/
lemma holds?_foldl {tree : Index.Tree} {own : Bool} (holds : tree.holds? w = some own)
    (others : List Clause) :
    ((others.map clauseTree).foldl .and tree).holds? w = some (own && Index.meets others w) := by
  induction others generalizing tree own with
  | nil => simpa [Index.meets] using holds
  | cons clause others ih =>
    have both : (tree.and (clauseTree clause)).holds? w =
        some (own && (phrasesOf clause).any fun p => 0 < p.occurrences w) := by
      rw [Index.Tree.holds?, holds, holds?_clauseTree]
      rfl
    rw [List.map_cons, List.foldl_cons, ih both, Bool.and_assoc]
    rfl

/-- A conjunction asks that all its clauses are met. -/
lemma holds?_expressionOf (plain : ∀ clause ∈ clauses, Plain (wordOfClause clause))
    (some : clauses ≠ []) :
    Index.holds? (expressionOf clauses) w = .some (Index.meets clauses w) := by
  rw [Index.holds?, read_expressionOf plain]
  cases clauses with
  | nil => exact absurd rfl some
  | cons first others => exact holds?_foldl (holds?_clauseTree first) others

/-- The expression of a query holds of a row if it meets the clauses of the query. -/
theorem holds_expression (raw : List Char) (some : (parse raw).clauses ≠ []) (w : Index.Words) :
    Index.holds? (parse raw).expression w = .some (Index.meets (parse raw).clauses w) :=
  holds?_expressionOf (fun _ mem => plain_of_mem_clauses mem) some

end Query

end BookCatalog
