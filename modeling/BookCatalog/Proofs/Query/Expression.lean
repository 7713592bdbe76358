import BookCatalog.Proofs.Index.Grammar
import BookCatalog.Proofs.Index.Words

/-!
# What an index expression says

The expression of a query is read by the index as what the query asks for (`read_expression`). The
central notions:

* `Plain`: a word of a query. It consists of characters of bare words, and has no ASCII capital, so
  that it is never taken for an operator.
* `clauseTokens`, `clauseTree`: a condition as tokens and as a tree. Only the tokens between a colon
  and a star are words of the query.
* `conjunction`: conditions that must all hold. The conditions can be read back from it
  (`conjunction_injective`).
-/

namespace BookCatalog.Query

open Text
open Index (Token Tree Scans)

variable {w cs : List Char} {c : Char} {column : Column} {clause : Clause} {ts behind : List Token}
  {inner : Index.Reader Tree}

/-! ## Lowercase -/

def capitals : List (Nat × Nat) := [(0x41, 0x5A)]

/-- No ASCII capital is its own lowercase form. -/
lemma capitals_moved :
    ∀ n < 26, lowerIn [] [] (Char.ofNat (0x41 + n)) ≠ [Char.ofNat (0x41 + n)] := by
  decide +kernel

/-- What is its own lowercase form is no ASCII capital. -/
lemma not_capital_of_small (small : Small c) : covers capitals c.toNat = false := by
  rw [← Bool.not_eq_true]
  intro capital
  obtain ⟨span, mem, above, below⟩ := exists_span capital
  cases List.mem_singleton.1 mem
  have moved := capitals_moved (c.toNat - 0x41) (by simp only at below; omega)
  rw [Nat.add_sub_cancel' above, Char.ofNat_toNat] at moved
  exact moved (small [] [])

/-! ## Words of a query -/

/-- The word that a clause asks for. -/
def wordOfClause : Clause → List Char
  | .anywhere w | .within _ w => w

/-- A word of a query: letters and digits, none of them an ASCII capital. -/
structure Plain (w : List Char) : Prop where
  ne : w ≠ []
  alnum : ∀ c ∈ w, isAlnum c = true
  small : ∀ c ∈ w, covers capitals c.toNat = false

/-- The words of a text are plain. -/
lemma plain_of_mem_words (mem : w ∈ words cs) : Plain w := by
  obtain ⟨ne, alnum, lowercase⟩ := isWord_of_mem_words mem
  have small : ∀ c ∈ lower w, Small c := fun _ => small_of_mem_lower
  rw [lowercase] at small
  exact ⟨ne, alnum, fun c own => not_capital_of_small (small c own)⟩

/-- All letters and digits are characters of bare words. -/
lemma alnum_in_bare : liesIn Index.bareSpans alnumSpans = true := by decide +kernel

/-- A plain word consists of characters of bare words. -/
lemma Plain.bare (plain : Plain w) : ∀ c ∈ w, Index.isBare c = true :=
  fun c own => covers_of_liesIn (by decide) alnum_in_bare (plain.alnum c own)

/-- A word of a query is no operator. -/
lemma Plain.bareToken (plain : Plain w) : Index.bareToken w = .text false w := by
  have other : ∀ op : List Char, (∃ c ∈ op, covers capitals c.toNat = true) → w ≠ op := by
    rintro op ⟨c, own, capital⟩ rfl
    rw [plain.small c own] at capital
    cases capital
  rw [Index.bareToken, if_neg (other _ ⟨'O', by decide, by decide⟩),
    if_neg (other _ ⟨'A', by decide, by decide⟩), if_neg (other _ ⟨'N', by decide, by decide⟩)]

/-- A plain word is written without quotes. -/
lemma Plain.starred (plain : Plain w) : starred w = w ++ ['*'] := by
  obtain ⟨c, last⟩ := List.getLast?_isSome.2 plain.ne |> Option.isSome_iff_exists.1
  have ne : c ≠ '*' := by
    rintro rfl
    have alnum := plain.alnum _ (List.mem_of_getLast? last)
    cases alnum
  rw [Query.starred, last]
  split
  case h_1 star => exact absurd (Option.some.inj star) ne
  case h_2 none => cases none
  case h_3 => rfl

/-! ## Tokens -/

def termTokens (w : List Char) (column : Column) : List Token :=
  [.text false column.name.toList, .colon, .text false w, .star]

def clauseTokens : Clause → List Token
  | .anywhere w => .opening :: (Index.joined .or (Column.all.map (termTokens w)) ++ [.closing])
  | .within column w => termTokens w column

/-- The name of a column and a colon are two tokens. -/
lemma scans_name (column : Column) :
    Scans (column.name.toList ++ [':']) [.text false column.name.toList, .colon] := by
  have bare : column.name.toList.all Index.isBare = true := by cases column <;> rfl
  have ne : column.name.toList ≠ [] := by cases column <;> decide
  have word : Index.bareToken column.name.toList = .text false column.name.toList := by
    cases column <;> decide
  have colon : Index.mark? ':' = some .colon := rfl
  have scans := Index.scans_bare (List.all_eq_true.1 bare) ne colon
  rwa [word] at scans

/-- A term is scanned as its tokens. -/
lemma scans_term (plain : Plain w) (column : Column) :
    Scans (columnTerm w column) (termTokens w column) := by
  have star : Index.mark? '*' = some .star := rfl
  have scans := Index.scans_bare plain.bare plain.ne star
  rw [plain.bareToken, ← plain.starred] at scans
  have both := (scans_name column).append scans
  rw [List.append_assoc, List.singleton_append] at both
  exact both

/-- A clause is scanned as its tokens. -/
lemma scans_clause (plain : Plain (wordOfClause clause)) :
    Scans clause.text (clauseTokens clause) := by
  cases clause with
  | anywhere w =>
    have between : Scans " OR ".toList [.or] :=
      Index.scans_spaced (w := ['O', 'R']) (List.all_eq_true.1 rfl) (by decide)
    have each : ∀ column ∈ Column.all, Scans (columnTerm w column) (termTokens w column) :=
      fun column _ => scans_term plain column
    have terms := Index.Scans.joinWith each between
    exact (Index.scans_mark rfl).append (terms.append (Index.scans_mark rfl))
  | within column w => exact scans_term plain column

/-- An expression is scanned as the tokens of its clauses, with `AND` between them. -/
lemma scan_expressionOf {clauses : List Clause}
    (plain : ∀ clause ∈ clauses, Plain (wordOfClause clause)) :
    Index.scan (expressionOf clauses) = some (Index.joined .and (clauses.map clauseTokens)) := by
  have between : Scans " AND ".toList [.and] :=
    Index.scans_spaced (w := ['A', 'N', 'D']) (List.all_eq_true.1 rfl) (by decide)
  exact (Index.Scans.joinWith (fun clause mem => scans_clause (plain clause mem)) between).scan

/-! ## Trees -/

def termTree (w : List Char) (column : Column) : Tree :=
  .phrase (some ⟨false, [column.name]⟩) false [⟨w, true⟩]

def clauseTree : Clause → Tree
  | .anywhere w =>
    .or (.or (.or (termTree w .title) (termTree w Column.annotation)) (termTree w .authors))
      (termTree w .series)
  | .within column w => termTree w column

/-- Conditions that must all hold; no tree if there are none. -/
def conjunction : List Clause → Option Tree
  | [] => none
  | first :: others => some ((others.map clauseTree).foldl .and (clauseTree first))

/-- Tokens behind which no phrase goes on. -/
def Ends (behind : List Token) : Prop :=
  ∀ t ∈ behind.head?, t = .or ∨ t = .and ∨ t = .closing

/-- In front of a term the name of its column is read as its scope. -/
lemma scope_term (w : List Char) (column : Column) (behind : List Token) :
    Index.scope (termTokens w column ++ behind) =
      some (⟨false, [column.name]⟩, .text false w :: .star :: behind) := by
  cases column <;> rfl

/-- What ends a phrase is no token but a few. -/
lemma Ends.ne {t : Token} (ends : Ends behind) (other : t ≠ .or ∧ t ≠ .and ∧ t ≠ .closing) :
    behind.head? ≠ some t := by
  intro front
  rcases ends t front with rfl | rfl | rfl
  · exact other.1 rfl
  · exact other.2.1 rfl
  · exact other.2.2 rfl

/-- A word and a star are read as one starred phrase. -/
lemma phrase_term (ends : Ends behind) :
    Index.phrase (.text false w :: .star :: behind) = some ([⟨w, true⟩], behind) := by
  have found : Index.part (.text false w :: .star :: behind) = some (⟨w, true⟩, behind) := rfl
  rw [Index.phrase, Index.oneOrMore_of_item found,
    Index.many_none (Index.after_none (ends.ne (by decide)))]
  rfl

/-- A term is read as its tree. -/
lemma item_term (ends : Ends behind) (column : Column) :
    Index.item (termTokens w column ++ behind) = some (termTree w column, behind) := by
  rw [Index.item, scope_term]
  simp only
  rw [Index.phrases]
  · rw [phrase_term ends]
    rfl
  · intro rest eq
    cases eq
  · intro rest eq
    cases eq

/-- No phrase is read where one ends. -/
lemma item_none (ends : Ends behind) : Index.item behind = none := by
  cases behind with
  | nil => rfl
  | cons t behind => rcases ends t rfl with rfl | rfl | rfl <;> rfl

/-- The reader of what stands between two `AND`s. -/
def condition (inner : Index.Reader Tree) : Index.Reader Tree :=
  Index.chain .not .not (Index.operand inner)

/-- Inside parentheses there are conditions with `AND` between them, and such with `OR` between
these. -/
lemma nested_succ (depth : Nat) : Index.nested (depth + 1) =
    Index.chain .or .or (Index.chain .and .and (condition (Index.nested depth))) := rfl

/-- A term is read as a condition of its own. -/
lemma condition_term (ends : Ends behind) (column : Column) :
    condition inner (termTokens w column ++ behind) = some (termTree w column, behind) := by
  refine Index.chain_one ?_ (ends.ne (by decide))
  have named := scope_term w column behind
  have found := item_term ends column (w := w)
  unfold Index.operand
  split
  case h_1 eq => cases eq
  case h_2 eq _ =>
    rw [named] at eq
    cases eq
  case h_3 =>
    rw [Index.oneOrMore_of_item found, Index.many_none (item_none ends)]
    rfl

/-- A condition is read, and what is behind it is left. -/
lemma condition_clause (depth : Nat) (clause : Clause) (ends : Ends behind) :
    condition (Index.nested (depth + 1)) (clauseTokens clause ++ behind) =
      some (clauseTree clause, behind) := by
  cases clause with
  | within column w => exact condition_term ends column
  | anywhere w =>
    -- inside the parentheses, a term is followed by another one or by the end
    have reads : ∀ column ∈ Column.all, ∀ behind : List Token,
        Ends behind ∧ behind.head? ≠ some .and →
        Index.chain .and .and (condition (Index.nested depth)) (termTokens w column ++ behind) =
          some (termTree w column, behind) :=
      fun column _ behind ends => Index.chain_one (condition_term ends.1 column) ends.2
    have inside : Index.nested (depth + 1)
        (Index.joined .or (Column.all.map (termTokens w)) ++ .closing :: behind) =
          some (clauseTree (.anywhere w), .closing :: behind) := by
      rw [nested_succ]
      refine Index.chain_joined reads (fun behind => ?_) ?_ (by simp)
      · simp [Ends]
      · simp [Ends]
    have closed : Index.before .closing (Index.nested (depth + 1))
        (Index.joined .or (Column.all.map (termTokens w)) ++ .closing :: behind) =
          some (clauseTree (.anywhere w), behind) := by
      rw [Index.before, inside]
      rfl
    have tokens : clauseTokens (.anywhere w) ++ behind =
        .opening :: (Index.joined .or (Column.all.map (termTokens w)) ++ .closing :: behind) := by
      simp [clauseTokens]
    rw [tokens]
    exact Index.chain_one closed (ends.ne (by decide))

/-- Clauses with `AND` between them are read as their conjunction. -/
lemma nested_conjunction (depth : Nat) (clauses : List Clause) (ne : clauses ≠ []) :
    Index.nested (depth + 2) (Index.joined .and (clauses.map clauseTokens)) =
      (conjunction clauses).map fun tree => (tree, []) := by
  cases clauses with
  | nil => exact absurd rfl ne
  | cons first others =>
    have reads : ∀ clause ∈ first :: others, ∀ behind : List Token, Ends behind →
        condition (Index.nested (depth + 1)) (clauseTokens clause ++ behind) =
          some (clauseTree clause, behind) :=
      fun clause _ behind ends => condition_clause depth clause ends
    have read : Index.chain .and .and (condition (Index.nested (depth + 1)))
        (Index.joined .and ((first :: others).map clauseTokens) ++ []) =
          some ((others.map clauseTree).foldl .and (clauseTree first), []) := by
      refine Index.chain_joined reads (fun behind => ?_) ?_ (by simp)
      · simp [Ends]
      · simp [Ends]
    rw [List.append_nil] at read
    rw [nested_succ]
    exact Index.chain_one read (by simp)

/-- Conditions with `AND` between them are read as what they say. -/
lemma read_expressionOf {clauses : List Clause}
    (plain : ∀ clause ∈ clauses, Plain (wordOfClause clause)) :
    Index.read (expressionOf clauses) = conjunction clauses := by
  rw [Index.read, scan_expressionOf plain, Option.bind_some]
  cases clauses with
  | nil => rfl
  | cons first others =>
    -- there is a token at least, so there is room for one pair of parentheses
    obtain ⟨depth, size⟩ : ∃ depth,
        (Index.joined .and ((first :: others).map clauseTokens)).length = depth + 1 := by
      cases first <;> exact ⟨_, rfl⟩
    rw [size, nested_conjunction depth _ (List.cons_ne_nil first others)]
    rfl

/-! ## Reading back -/

/-- The conditions that must all hold in a tree, from left to right. -/
def conjuncts : Tree → List Tree
  | .and left right => conjuncts left ++ [right]
  | tree => [tree]

/-- A clause is one condition. -/
lemma conjuncts_clauseTree (clause : Clause) :
    conjuncts (clauseTree clause) = [clauseTree clause] := by
  cases clause <;> rfl

/-- The conditions of a conjunction are those that it is made of. -/
lemma conjuncts_foldl (tree : Tree) (trees : List Tree) :
    conjuncts (trees.foldl .and tree) = conjuncts tree ++ trees := by
  induction trees generalizing tree with
  | nil => rw [List.foldl_nil, List.append_nil]
  | cons next trees ih =>
    rw [List.foldl_cons, ih, conjuncts, List.append_assoc, List.singleton_append]

/-- Columns have different names. -/
lemma name_injective {column column' : Column} (same : column.name = column'.name) :
    column = column' := by
  revert same
  cases column <;> cases column' <;> decide

/-- Different clauses have different trees. -/
lemma clauseTree_injective : Function.Injective clauseTree := by
  intro clause clause' same
  cases clause with
  | anywhere w =>
    cases clause' with
    | anywhere w' => simpa [clauseTree, termTree] using same
    | within column w' => cases same
  | within column w =>
    cases clause' with
    | anywhere w' => cases same
    | within column' w' =>
      simp only [clauseTree, termTree, Tree.phrase.injEq, Option.some.injEq, Index.Scope.mk.injEq,
        List.cons.injEq, Index.Part.mk.injEq, true_and, and_true] at same
      rw [name_injective same.1, same.2]

/-- The conditions can be read back from what their expression says. -/
lemma conjunction_injective : Function.Injective conjunction := by
  intro clauses clauses' same
  have trees : ∀ clauses, (conjunction clauses).toList.flatMap conjuncts =
      clauses.map clauseTree := by
    intro clauses
    cases clauses with
    | nil => rfl
    | cons first others =>
      rw [conjunction, Option.toList_some, List.flatMap_singleton, conjuncts_foldl,
        conjuncts_clauseTree]
      rfl
  refine List.map_injective_iff.2 clauseTree_injective ?_
  rw [← trees clauses, ← trees clauses', same]

/-- Different clauses have different expressions. -/
lemma expressionOf_injective {clauses clauses' : List Clause}
    (plain : ∀ clause ∈ clauses, Plain (wordOfClause clause))
    (plain' : ∀ clause ∈ clauses', Plain (wordOfClause clause))
    (same : expressionOf clauses = expressionOf clauses') : clauses = clauses' := by
  have read := congrArg Index.read same
  rw [read_expressionOf plain, read_expressionOf plain'] at read
  exact conjunction_injective read

/-! ## The expression of a query -/

/-- The clauses of a query ask for plain words. -/
lemma plain_of_mem_clauses (mem : clause ∈ (parse cs).clauses) : Plain (wordOfClause clause) := by
  rcases mem_clauses.1 mem with ⟨w, listed, rfl⟩ | ⟨column, w, listed, rfl⟩
  · exact plain_of_mem_words (exists_words_of_general (ne_nil_of_mem_distinct listed).2).choose_spec
  · exact plain_of_mem_words (exists_words_of_terms (ne_nil_of_mem_distinct listed).2).choose_spec

def Clause.anywhere? : Clause → Option (List Char)
  | .anywhere w => some w
  | .within _ _ => none

def Clause.within? (column : Column) : Clause → Option (List Char)
  | .anywhere _ => none
  | .within column' w => if column' = column then some w else none

/-- The clauses without a column are those of the words without qualifier, each once. -/
lemma anywhere_clauses (q : Query) : q.clauses.filterMap Clause.anywhere? = distinct q.general := by
  simp [clauses, List.filterMap_append, List.filterMap_map, Function.comp_def, Clause.anywhere?]

/-- The clauses with a column are those of the words for it, each once. -/
lemma within_clauses (q : Query) (column : Column) :
    q.clauses.filterMap (Clause.within? column) = distinct (q.terms column) := by
  cases column <;>
    simp [clauses, List.filterMap_append, List.filterMap_map, Function.comp_def, Clause.within?]

/-- The expression of a query is cut into the tokens of its conditions, among which the words of the
query are those between a colon and a star, and is read as their conjunction. It is empty only if
there is no condition, and queries with the same expression ask for the same words. -/
theorem read_expression (raw : List Char) :
    Index.scan (parse raw).expression =
        some (Index.joined .and ((parse raw).clauses.map clauseTokens)) ∧
      Index.read (parse raw).expression = conjunction (parse raw).clauses ∧
      ((parse raw).expression = [] ↔ (parse raw).clauses = []) ∧
      ∀ raw', (parse raw').expression = (parse raw).expression →
        distinct (parse raw').general = distinct (parse raw).general ∧
          ∀ column, distinct ((parse raw').terms column) = distinct ((parse raw).terms column) := by
  have plain : ∀ raw, ∀ clause ∈ (parse raw).clauses, Plain (wordOfClause clause) :=
    fun raw clause mem => plain_of_mem_clauses mem
  refine ⟨scan_expressionOf (plain raw), read_expressionOf (plain raw),
    ⟨fun empty => ?_, fun none => ?_⟩, fun raw' same => ?_⟩
  · have none : ∀ clause ∈ ([] : List Clause), Plain (wordOfClause clause) := nofun
    exact expressionOf_injective (plain raw) none empty
  · rw [expression, none]
    rfl
  · have clauses := expressionOf_injective (plain raw') (plain raw) same
    rw [← anywhere_clauses, ← anywhere_clauses, clauses]
    refine ⟨rfl, fun column => ?_⟩
    rw [← within_clauses, ← within_clauses, clauses]

end BookCatalog.Query
