import BookCatalog.Proofs.Query.Meaning
import BookCatalog.Proofs.Search.Selecting

/-!
# What the statements of a search give

The statements of a search are texts with placeholders. Here they are read as what they say: tables
are joined, rows are kept that meet all conditions, and these are counted, or grouped, ordered and
cut to a page. A search gives what its statements give with their arguments in the place of the
placeholders (`Library.search_evaluates`). The central notions:

* `Tuple`: a row that a statement works on.
* `Join`, `Test`: the joins and the conditions that there are, with their texts and what they say.
* `Select`: a statement, of which `Select.countText` and `Select.pageText` are the texts, and
  `Select.count` and `Select.page` what they give.
-/

namespace BookCatalog

open Library (orNone)

/-! ## Joins -/

/-- A book with the rows that a statement has joined to it. -/
structure Tuple where
  b : StoredBook
  s : Option Named := none
  g : Option Named := none
  fts : Option Hit := none
  ba : Option Link := none
  a : Option Named := none

/-- What a search looks at in a row. -/
def Tuple.joined (t : Tuple) : Joined :=
  ⟨t.b, t.s, t.g, t.fts, t.a⟩

/-- The tables that can be joined to the books. -/
inductive Join where
  | series
  | genre
  | index
  | links
  | authors
  deriving DecidableEq, Repr

namespace Join

/-- The text of a join. -/
def text : Join → String
  | .series => seriesJoin
  | .genre => genreJoin
  | .index => indexJoin
  | .links => "LEFT JOIN book_authors ba ON b.id = ba.book_id"
  | .authors => "LEFT JOIN authors a ON ba.author_id = a.id"

/-- A row with each of the rows that are joined to it. In all joins but that of the index it is
there without such a row as well, if there is none. -/
def rows (lib : Library) (hits : List Hit) (t : Tuple) : Join → List Tuple
  | .series => (orNone (lib.series.rows.filter fun r => t.b.seriesId = some r.id)).map fun s =>
    { t with s }
  | .genre => (orNone (lib.genres.rows.filter fun r => t.b.genreId = some r.id)).map fun g =>
    { t with g }
  | .index => (hits.filter (·.row.bookId = t.b.id)).map fun hit => { t with fts := some hit }
  | .links => (orNone (lib.links.filter (·.bookId = t.b.id))).map fun ba => { t with ba }
  | .authors =>
    (orNone (lib.authors.rows.filter fun r => t.ba.any (·.authorId = r.id))).map fun a =>
      { t with a }

end Join

/-! ## Conditions -/

/-- A column of texts that a part of a text is looked for in. -/
inductive TextColumn where
  | title
  | annotation
  | author
  | series
  deriving DecidableEq, Repr

namespace TextColumn

/-- The columns in the order of the condition. -/
def all : List TextColumn :=
  [.title, TextColumn.annotation, .author, .series]

/-- The column as a statement names it. -/
def source : TextColumn → String
  | .title => "b.title"
  | TextColumn.annotation => "b.annotation"
  | .author => "a.name"
  | .series => "s.name"

/-- The value of a column. -/
def value (t : Tuple) : TextColumn → Option String
  | .title => some t.b.title
  | TextColumn.annotation => t.b.annotation
  | .author => t.a.map Named.name
  | .series => t.s.map Named.name

/-- A column, its ASCII letters in lower case, is like a pattern. -/
def isLike (t : Tuple) (column : TextColumn) : Value → Bool
  | .text pattern => fitsText pattern.toList (column.value t)
  | _ => false

end TextColumn

/-- The conditions that there are, with as many placeholders as there are names. -/
inductive Test where
  | indexed
  | containing
  | named (column : NameColumn) (count : Nat)
  | yearFrom
  | yearTo
  deriving DecidableEq, Repr

namespace Test

/-- The text of a condition. -/
def text : Test → String
  | .indexed => "books_fts MATCH ?"
  | .containing =>
    "(" ++ String.intercalate " OR " (TextColumn.all.map fun column =>
      "LOWER(" ++ column.source ++ ") LIKE ? ESCAPE '\\'") ++ ")"
  | .named column count => column.source ++ " IN (" ++ Statement.placeholders count ++ ")"
  | .yearFrom => "b.year >= ?"
  | .yearTo => "b.year <= ?"

/-- The number of placeholders of a condition. -/
def arity : Test → Nat
  | .containing => 4
  | .named _ count => count
  | _ => 1

/-- A row meets a condition with arguments in the place of its placeholders. A missing value meets
none. -/
def holds (t : Tuple) : Test → List Value → Bool
  | .indexed, [.text expression] =>
    t.fts.any fun hit => Index.holds? expression.toList hit.words = some true
  | .containing, patterns => (TextColumn.all.zip patterns).any fun (column, pattern) =>
    column.isLike t pattern
  | .named column _, names => (t.joined.name? column).any fun name => names.contains (.text name)
  | .yearFrom, [.integer year] => t.b.year.any (year ≤ ·)
  | .yearTo, [.integer year] => t.b.year.any (· ≤ year)
  | _, _ => false

/-- A row meets conditions that share arguments among them, from the first to the last. -/
def allHold (t : Tuple) : List Test → List Value → Bool
  | [], _ => true
  | test :: rest, args =>
    test.holds t (args.take test.arity) && allHold t rest (args.drop test.arity)

end Test

/-! ## Statements -/

/-- A statement on the books. -/
structure Select where
  joins : List Join
  tests : List Test
  grouped : Bool
  deriving DecidableEq, Repr

/-- Rows with one of those for each book, the first one. -/
def firstOfEach : List Tuple → List Tuple
  | [] => []
  | t :: rest => t :: (firstOfEach rest).filter (·.b.id ≠ t.b.id)

namespace Select

/-- The text from `FROM` to the last condition. -/
def body (q : Select) : String :=
  " FROM books b" ++ String.join (q.joins.map fun join => " " ++ join.text) ++
    if q.tests.isEmpty then "" else " WHERE " ++ String.intercalate " AND " (q.tests.map Test.text)

/-- The text that counts. -/
def countText (q : Select) : String :=
  "SELECT COUNT(DISTINCT b.id)" ++ q.body

/-- The text that gives a page. -/
def pageText (q : Select) (order : Order) : String :=
  "SELECT " ++ selectedColumns ++ q.body ++ (if q.grouped then " GROUP BY b.id" else "") ++
    " ORDER BY " ++ order.clause ++ " LIMIT ? OFFSET ?"

/-- The number of placeholders of the conditions. -/
def arity (q : Select) : Nat :=
  (q.tests.map Test.arity).sum

/-- All rows. -/
def rows (q : Select) (lib : Library) (hits : List Hit) : List Tuple :=
  q.joins.foldl (fun ts join => ts.flatMap fun t => join.rows lib hits t)
    (lib.books.map fun b => { b })

/-- The rows that meet all conditions. -/
def selected (q : Select) (lib : Library) (hits : List Hit) (args : List Value) : List Tuple :=
  (q.rows lib hits).filter fun t => Test.allHold t q.tests args

/-- The number of different books in the selected rows. -/
def count (q : Select) (lib : Library) (hits : List Hit) (args : List Value) : Nat :=
  ((q.selected lib hits args).map (·.b.id)).dedup.length

/-- A page of the selected rows, in order. Its limit and its offset are the last arguments. -/
def page (q : Select) (order : Order) (lib : Library) (hits : List Hit)
    (args : List Value) : List Tuple :=
  let selected := q.selected lib hits args
  let shown := if q.grouped then firstOfEach selected else selected
  match args.drop q.arity with
  | [.integer limit, .integer offset] =>
    slice limit offset (shown.mergeSort fun t u => order.puts t.joined u.joined)
  | _ => []

end Select

/-! ## The statement of a plan -/

namespace Criterion

/-- The condition that a criterion is written as. -/
def test : Criterion → Test
  | .indexed _ => .indexed
  | .containing _ => .containing
  | .named column names => .named column names.length
  | .yearFrom _ => .yearFrom
  | .yearTo _ => .yearTo

/-- The arguments of a criterion. -/
def args : Criterion → List Value
  | .indexed clauses => [.text (String.ofList (Query.expressionOf clauses))]
  | .containing text => List.replicate 4 (.text (String.ofList (containsPattern text)))
  | .named _ names => names.map .text
  | .yearFrom year | .yearTo year => [.integer year]

/-- A criterion as filters have them: the words of an expression are plain, and there is a name. -/
def Regular : Criterion → Prop
  | .indexed clauses => clauses ≠ [] ∧ ∀ clause ∈ clauses, Query.Plain (Query.wordOfClause clause)
  | .named _ names => names ≠ []
  | _ => True

/-- A criterion has an argument for each placeholder of its condition. -/
lemma length_args (c : Criterion) : c.args.length = c.test.arity := by
  cases c <;> simp [args, test, Test.arity]

/-- A criterion holds of a row if its condition does with its arguments. -/
lemma holds_test {c : Criterion} (regular : c.Regular) (t : Tuple) :
    c.test.holds t c.args = c.holds t.joined := by
  cases c with
  | indexed clauses =>
    obtain ⟨some, plain⟩ := regular
    simp only [test, args, Test.holds, holds, String.toList_ofList,
      Query.holds?_expressionOf plain some, Option.some.injEq, Bool.decide_eq_true]
    rfl
  | containing text =>
    simp [test, args, Test.holds, holds, TextColumn.all, TextColumn.isLike, TextColumn.value,
      Joined.texts, Tuple.joined, List.replicate]
  | named column names =>
    simp only [test, args, Test.holds, holds]
    congr 1
    funext name
    simp
  | yearFrom year => rfl
  | yearTo year => rfl

end Criterion

variable {lib : Library} {f : Filter} {p : Plan} {c : Criterion} {cs : List Criterion}
  {s : Statement} {t : Tuple} {b : StoredBook}

namespace Plan

/-- The statement that a plan stands for. -/
def select (p : Plan) : Select where
  joins := [.series, .genre] ++ (if p.usesIndex then [.index] else []) ++
    if p.usesAuthors then [.links, .authors] else []
  tests := p.criteria.map Criterion.test
  grouped := p.usesAuthors

/-- The arguments of the conditions of a plan. -/
def args (p : Plan) : List Value :=
  p.criteria.flatMap Criterion.args

end Plan

/-! ### The text -/

/-- What one condition adds to a statement. -/
lemma Criterion.addTo_eq (regular : c.Regular) : c.addTo s =
    { joins := s.joins ++ (if c.usesIndex then [indexJoin] else []) ++
        if c.usesAuthors && !s.authorsJoined then authorJoins else []
      conditions := s.conditions ++ [c.test.text]
      args := s.args ++ c.args
      authorsJoined := s.authorsJoined || c.usesAuthors } := by
  have joined : s.joinAuthors =
      { s with
        joins := s.joins ++ if !s.authorsJoined then authorJoins else []
        authorsJoined := true } := by
    rw [Statement.joinAuthors]
    cases joined : s.authorsJoined <;> simp [← joined]
  cases c with
  | indexed clauses =>
    simp [addTo, usesIndex, usesAuthors, test, Test.text, args, Statement.joinIndex,
      Statement.require]
  | containing text =>
    have condition : containsCondition = Test.containing.text := by decide +kernel
    simp [addTo, usesIndex, usesAuthors, test, args, joined, Statement.require, condition]
  | named column names =>
    have given : (names.map Value.text).isEmpty = false := by simpa [Regular] using regular
    cases column <;>
      simp [addTo, usesIndex, usesAuthors, test, Test.text, args, joined, Statement.requireIn,
        Statement.require, given]
  | yearFrom year => simp [addTo, usesIndex, usesAuthors, test, Test.text, args, Statement.require]
  | yearTo year => simp [addTo, usesIndex, usesAuthors, test, Test.text, args, Statement.require]

/-- What conditions that do not look at the index add to a statement. -/
lemma foldl_addTo (regular : ∀ c ∈ cs, c.Regular) (unindexed : ∀ c ∈ cs, c.usesIndex = false) :
    cs.foldl Criterion.addTo s =
      { joins := s.joins ++
          if cs.any Criterion.usesAuthors && !s.authorsJoined then authorJoins else []
        conditions := s.conditions ++ cs.map fun c => c.test.text
        args := s.args ++ cs.flatMap Criterion.args
        authorsJoined := s.authorsJoined || cs.any Criterion.usesAuthors } := by
  induction cs generalizing s with
  | nil => simp
  | cons c cs ih =>
    obtain ⟨own, others⟩ := List.forall_mem_cons.1 regular
    obtain ⟨first, rest⟩ := List.forall_mem_cons.1 unindexed
    rw [List.foldl_cons, ih others rest, Criterion.addTo_eq own, first]
    cases joined : s.authorsJoined <;> cases uses : c.usesAuthors <;> simp [uses]

/-- The conditions of a filter are the one of its query, if it has one, and others that do not look
at the index. -/
lemma Filter.criteria_split (f : Filter) : ∃ others, f.criteria = queryCriteria f.query ++ others ∧
    ∀ c ∈ others, c.usesIndex = false := by
  refine ⟨_, by simp only [Filter.criteria, List.append_assoc]; rfl, ?_⟩
  simp only [List.forall_mem_append, forall_nameCriteria, forall_yearCriteria]
  exact ⟨fun _ => rfl, fun _ => rfl, fun _ => rfl, fun _ => rfl, fun _ => rfl, fun _ => rfl,
    fun _ => rfl⟩

/-- The conditions of a filter are regular. -/
lemma Filter.regular_criteria (f : Filter) : ∀ c ∈ f.criteria, c.Regular := by
  refine Filter.forall_criteria.2
    ⟨fun c listed => ?_, id, id, id, id, id, fun _ => trivial, fun _ => trivial⟩
  rcases queryCriteria_cases f.query with ⟨none, -⟩ | ⟨some, indexed⟩ | ⟨-, -, contains⟩
  · rw [none] at listed
    cases listed
  · rw [indexed] at listed
    cases List.mem_singleton.1 listed
    exact ⟨some, fun clause mem => Query.plain_of_mem_clauses mem⟩
  · rw [contains] at listed
    cases List.mem_singleton.1 listed
    trivial

/-- The joins of a filter's statement: those of series and genre, that of the index if the query has
words, and those of the authors if a condition looks at them, each once. -/
lemma Filter.statement_eq (f : Filter) : f.plan.statement =
    { joins := f.plan.select.joins.map Join.text
      conditions := f.plan.select.tests.map Test.text
      args := f.plan.args
      authorsJoined := f.plan.select.grouped } := by
  obtain ⟨others, split, unindexed⟩ := f.criteria_split
  have regular := f.regular_criteria
  have criteria : f.plan.criteria = queryCriteria f.query ++ others := split
  rw [split, List.forall_mem_append] at regular
  simp only [Plan.statement, Plan.select, Plan.args, Plan.usesIndex, Plan.usesAuthors, criteria,
    List.foldl_append, foldl_addTo regular.2 unindexed]
  have none : others.any Criterion.usesIndex = false := by simpa using unindexed
  rcases queryCriteria_cases f.query with ⟨empty, -⟩ | ⟨-, indexed⟩ | ⟨-, -, contains⟩
  · rw [empty]
    cases h : others.any Criterion.usesAuthors <;> simp [none, h, Join.text, authorJoins]
  · rw [indexed] at regular ⊢
    rw [List.foldl_cons, List.foldl_nil, Criterion.addTo_eq (regular.1 _ List.mem_cons_self)]
    cases h : others.any Criterion.usesAuthors <;>
      simp [none, h, Join.text, authorJoins, Criterion.usesIndex, Criterion.usesAuthors]
  · rw [contains] at regular ⊢
    rw [List.foldl_cons, List.foldl_nil, Criterion.addTo_eq (regular.1 _ List.mem_cons_self)]
    simp [none, Join.text, authorJoins, Criterion.usesIndex, Criterion.usesAuthors]

/-- The texts of a search are those of the statement that its plan stands for, and the arguments are
those of its conditions, with the limit and the offset behind them for a page. -/
theorem Filter.written (f : Filter) :
    f.plan.count = ⟨f.plan.select.countText, f.plan.args⟩ ∧
      f.plan.page = ⟨f.plan.select.pageText f.plan.order,
        f.plan.args ++ [.integer f.plan.limit, .integer f.plan.offset]⟩ := by
  have body : f.plan.statement.body = f.plan.select.body := by
    rw [f.statement_eq]
    simp [Statement.body, Select.body, Function.comp_def]
  have args : f.plan.statement.args = f.plan.args := by rw [f.statement_eq]
  have grouped : f.plan.statement.authorsJoined = f.plan.select.grouped := by rw [f.statement_eq]
  constructor
  · unfold Plan.count Statement.count Select.countText
    rw [body, args]
  · unfold Plan.page Statement.page Select.pageText
    rw [body, args, grouped]

/-! ### The conditions -/

/-- Conditions with their arguments in the place of their placeholders, and more arguments behind
them. -/
lemma allHold_tests (regular : ∀ c ∈ cs, c.Regular) (more : List Value) :
    Test.allHold t (cs.map Criterion.test) (cs.flatMap Criterion.args ++ more) =
    cs.all (Criterion.holds t.joined) := by
  induction cs with
  | nil => rfl
  | cons c cs ih =>
    obtain ⟨own, others⟩ := List.forall_mem_cons.1 regular
    rw [List.map_cons, List.flatMap_cons, List.append_assoc, Test.allHold, ← c.length_args,
      List.take_left, List.drop_left, ih others, Criterion.holds_test own, List.all_cons]

/-- The conditions of a plan have a placeholder for each of its arguments. -/
lemma arity_select (p : Plan) : p.select.arity = p.args.length := by
  rw [Select.arity, Plan.select, Plan.args, List.length_flatMap, List.map_map]
  simp [Function.comp_def, Criterion.length_args]

/-! ### The rows -/

namespace Library

/-- Every number leads to one row: no name, no number and no book is there twice, and the authors of
a book are there. -/
structure Joinable (lib : Library) : Prop where
  sound : lib.NamesSound
  authors : ∀ l ∈ lib.links, lib.authors.Has l.authorId
  nodup : (lib.books.map (·.id)).Nodup

/-- Where the tables represent a ledger, every number leads to one row. -/
lemma Represents.joinable {ledger : List Submission} (rep : lib.Represents ledger) :
    lib.Joinable where
  sound := rep.sound
  nodup := rep.nodup
  authors l mem := by
    obtain ⟨s, n, -, -, stored⟩ := (rep.links l).1 mem
    exact ⟨_, stored, rfl⟩

/-- Where no key is there twice, a key has the row that is found by it, or none. -/
lemma filter_key {α β : Type} [DecidableEq β] {key : α → β} {rows : List α}
    (nodup : (rows.map key).Nodup) (k : β) :
    rows.filter (key · = k) = (rows.find? (key · = k)).toList := by
  induction rows with
  | nil => rfl
  | cons r rest ih =>
    rw [List.map_cons, List.nodup_cons] at nodup
    by_cases e : key r = k
    · have others : rest.filter (key · = k) = [] :=
        List.filter_eq_nil_iff.2 fun r' mem same =>
          nodup.1 (List.mem_map.2 ⟨r', mem, (of_decide_eq_true same).trans e.symm⟩)
      simp [e, others]
    · simp [e, ih nodup.2]

/-- What may be missing is one choice. -/
lemma orNone_toList {α : Type} (o : Option α) : orNone o.toList = [o] := by
  cases o <;> rfl

/-- A number leads to one row at most. -/
lemma orNone_filter_id {d : Dimension} (sound : d.Sound) (id : Option Int) :
    orNone (d.rows.filter fun r => id = some r.id) = [nameOf? d id] := by
  cases id with
  | none => simp [orNone, nameOf?]
  | some id =>
    have one := filter_key sound.ids_nodup id
    simp only [Option.some.injEq, eq_comm (a := id), one, orNone_toList]
    rfl

/-- A book with its rows of the tables that are joined to it. -/
def rowsOf (lib : Library) (hits : List Hit) (joins : List Join) (t : Tuple) : List Tuple :=
  joins.foldl (fun ts join => ts.flatMap fun t => join.rows lib hits t) [t]

/-- Tables are joined to each row on its own. -/
lemma foldl_joins (joins : List Join) (hits : List Hit) (ts : List Tuple) :
    joins.foldl (fun ts join => ts.flatMap fun t => join.rows lib hits t) ts =
    ts.flatMap (lib.rowsOf hits joins) := by
  induction joins generalizing ts with
  | nil => exact (List.flatMap_singleton' ts).symm
  | cons join joins ih =>
    rw [List.foldl_cons, ih, List.flatMap_assoc]
    congr 1
    funext t
    rw [rowsOf, List.foldl_cons, List.flatMap_singleton, ih]

/-- A first table is joined before the others. -/
lemma rowsOf_cons (join : Join) (joins : List Join) (hits : List Hit) (t : Tuple) :
    lib.rowsOf hits (join :: joins) t = (join.rows lib hits t).flatMap (lib.rowsOf hits joins) := by
  rw [rowsOf, List.foldl_cons, List.flatMap_singleton, foldl_joins]

/-- One table is joined by its own join. -/
lemma rowsOf_singleton (join : Join) (hits : List Hit) (t : Tuple) :
    lib.rowsOf hits [join] t = join.rows lib hits t := by
  rw [rowsOf_cons]
  exact List.flatMap_singleton' _

/-- All rows of a statement are those of book after book. -/
lemma rows_select (p : Plan) (hits : List Hit) :
    p.select.rows lib hits = lib.books.flatMap fun b => lib.rowsOf hits p.select.joins { b } := by
  rw [Select.rows, foldl_joins, List.flatMap_map]

/-- Tables are joined one after the other. -/
lemma rowsOf_append (joins more : List Join) (hits : List Hit) (t : Tuple) :
    lib.rowsOf hits (joins ++ more) t =
    (lib.rowsOf hits joins t).flatMap (lib.rowsOf hits more) := by
  rw [rowsOf, List.foldl_append, foldl_joins]
  rfl

/-- Choices that all lead to something lead to choices of that. -/
lemma map_orNone {α β : Type} {rows : List α} {of : α → Option β}
    (all : ∀ a ∈ rows, (of a).isSome = true) :
    (orNone rows).map (·.bind of) = orNone (rows.filterMap of) := by
  have each : (rows.filterMap of).map some = rows.map of := by
    induction rows with
    | nil => rfl
    | cons a rest ih =>
      obtain ⟨own, others⟩ := List.forall_mem_cons.1 all
      obtain ⟨b, leads⟩ := Option.isSome_iff_exists.1 own
      rw [List.filterMap_cons_some leads, List.map_cons, ih others, List.map_cons, leads]
  cases rows with
  | nil => rfl
  | cons a rest =>
    obtain ⟨b, leads⟩ := Option.isSome_iff_exists.1 (all a List.mem_cons_self)
    have first : (a :: rest).filterMap of = b :: rest.filterMap of := List.filterMap_cons_some leads
    calc (orNone (a :: rest)).map (·.bind of)
        = (a :: rest).map of := by simp [orNone, Function.comp_def]
      _ = ((a :: rest).filterMap of).map some := each.symm
      _ = orNone ((a :: rest).filterMap of) := by rw [first]; rfl

/-- With its authors joined, a row is there once for each of them, and once without any if there are
none. -/
lemma rowsOf_authors (joinable : lib.Joinable) (hits : List Hit) (t : Tuple) :
    (lib.rowsOf hits [.links, .authors] t).map Tuple.joined =
      (orNone ((lib.links.filter (·.bookId = t.b.id)).filterMap
        fun l => lib.authors.byId? l.authorId)).map
        fun author => { t.joined with author } := by
  have sound : lib.authors.Sound := joinable.sound .authors
  have author : ∀ t' : Tuple, lib.rowsOf hits [.authors] t' =
      [{ t' with a := t'.ba.bind fun l => lib.authors.byId? l.authorId }] := by
    intro t'
    have one := orNone_filter_id sound (t'.ba.map Link.authorId)
    have same : (lib.authors.rows.filter fun r => t'.ba.any (·.authorId = r.id)) =
        lib.authors.rows.filter fun r => t'.ba.map Link.authorId = some r.id := by
      cases t'.ba <;> simp
    rw [rowsOf_singleton, Join.rows, same, one, nameOf?, Option.bind_map]
    rfl
  have known : ∀ l ∈ lib.links.filter (·.bookId = t.b.id),
      (lib.authors.byId? l.authorId).isSome = true := by
    intro l mem
    obtain ⟨r, stored, own⟩ := joinable.authors l (List.mem_of_mem_filter mem)
    rw [← own, sound.byId?_of_mem stored]
    rfl
  rw [← map_orNone known, rowsOf_cons, Join.rows, funext author]
  simp only [List.map_flatMap, List.flatMap_map, List.map_map]
  exact List.map_eq_flatMap.symm

/-- The rows of a statement for a book are those that a search looks at. -/
lemma rowsOf_select (joinable : lib.Joinable) (p : Plan) (hits : List Hit) (b : StoredBook) :
    (lib.rowsOf hits p.select.joins { b }).map Tuple.joined = lib.joined p hits b := by
  have series : orNone (lib.series.rows.filter fun r => b.seriesId = some r.id) = _ :=
    orNone_filter_id (joinable.sound .series) b.seriesId
  have genre : orNone (lib.genres.rows.filter fun r => b.genreId = some r.id) = _ :=
    orNone_filter_id (joinable.sound .genres) b.genreId
  have named : lib.rowsOf hits [.series, .genre] { b } =
      [{ b, s := nameOf? lib.series b.seriesId, g := nameOf? lib.genres b.genreId }] := by
    simp only [rowsOf_cons, Join.rows, series, List.map_singleton, List.flatMap_singleton, genre]
    rfl
  have indexed : ∀ t : Tuple, lib.rowsOf hits (if p.usesIndex then [.index] else []) t =
      (if p.usesIndex then (hits.filter (·.row.bookId = t.b.id)).map some else [t.fts]).map
        fun fts => { t with fts } := by
    intro t
    split
    · rw [rowsOf_singleton, Join.rows, List.map_map]
      rfl
    · rfl
  rw [Plan.select, List.append_assoc, rowsOf_append, named, List.flatMap_singleton,
    rowsOf_append, indexed, List.flatMap_map, List.map_flatMap, joined]
  congr 1
  funext fts
  split
  · exact rowsOf_authors joinable hits _
  · rfl

/-! ### The selected rows -/

/-- The selected rows of a book. -/
def selectedOf (lib : Library) (p : Plan) (b : StoredBook) : List Tuple :=
  (lib.rowsOf (lib.hits p) p.select.joins { b }).filter fun t => p.accepts t.joined

/-- A statement selects the rows of book after book. -/
lemma selected_select (lib : Library) (regular : ∀ c ∈ p.criteria, c.Regular)
    (more : List Value) :
    p.select.selected lib (lib.hits p) (p.args ++ more) = lib.books.flatMap (lib.selectedOf p) := by
  rw [Select.selected, rows_select, List.filter_flatMap]
  congr 1
  funext b
  rw [selectedOf]
  congr 1
  funext t
  exact allHold_tests regular more

/-- The selected rows of a book are those of its joined rows that meet all conditions. -/
lemma map_selectedOf (joinable : lib.Joinable) (p : Plan) (b : StoredBook) :
    (lib.selectedOf p b).map Tuple.joined = (lib.joined p (lib.hits p) b).filter p.accepts := by
  rw [← rowsOf_select joinable, List.filter_map]
  rfl

/-- The rows of a book are its own. -/
lemma book_of_mem_selectedOf (joinable : lib.Joinable) (mem : t ∈ lib.selectedOf p b) :
    t.b = b := by
  have listed := List.mem_map_of_mem (f := Tuple.joined) mem
  rw [map_selectedOf joinable] at listed
  exact (book_of_mem_joined (List.mem_filter.1 listed).1).1

end Library

section Groups

variable {ts rest : List Tuple} {of : StoredBook → List Tuple} {books : List StoredBook}

/-- Only rows that are there are taken. -/
lemma mem_of_mem_firstOfEach (mem : t ∈ firstOfEach ts) : t ∈ ts := by
  induction ts with
  | nil => exact mem
  | cons u ts ih =>
    rw [firstOfEach, List.mem_cons] at mem
    exact List.mem_cons.2 (mem.imp_right fun later => ih (List.mem_of_mem_filter later))

/-- Of rows of one book in front of rows of others, the first one is kept. -/
lemma firstOfEach_append {id : String} (own : ∀ t ∈ ts, t.b.id = id)
    (apart : ∀ t ∈ rest, t.b.id ≠ id) :
    firstOfEach (ts ++ rest) = ts.take 1 ++ firstOfEach rest := by
  induction ts with
  | nil => rfl
  | cons t ts ih =>
    obtain ⟨first, others⟩ := List.forall_mem_cons.1 own
    have behind : (firstOfEach rest).filter (·.b.id ≠ t.b.id) = firstOfEach rest :=
      List.filter_eq_self.2 fun u mem => by simpa [first] using apart u (mem_of_mem_firstOfEach mem)
    have before : (ts.take 1).filter (·.b.id ≠ t.b.id) = [] :=
      List.filter_eq_nil_iff.2 fun u mem => by simp [first, others u (List.mem_of_mem_take mem)]
    rw [List.cons_append, firstOfEach, ih others, List.filter_append, before, behind]
    rfl

/-- Rows that come book after book are grouped by taking the first row of each book. -/
lemma firstOfEach_flatMap (own : ∀ b, ∀ t ∈ of b, t.b = b) (nodup : (books.map (·.id)).Nodup) :
    firstOfEach (books.flatMap of) = books.flatMap fun b => (of b).take 1 := by
  induction books with
  | nil => rfl
  | cons b rest ih =>
    rw [List.map_cons, List.nodup_cons] at nodup
    have apart : ∀ t ∈ rest.flatMap of, t.b.id ≠ b.id := by
      intro t mem same
      obtain ⟨b', listed, mem⟩ := List.mem_flatMap.1 mem
      exact nodup.1 (List.mem_map.2 ⟨b', listed, own b' t mem ▸ same⟩)
    rw [List.flatMap_cons, firstOfEach_append (fun t mem => congrArg _ (own b t mem)) apart,
      ih nodup.2, List.flatMap_cons]

/-- The different ids of rows that come book after book are those of the books that have rows. -/
lemma length_dedup_ids (own : ∀ b, ∀ t ∈ of b, t.b = b) (nodup : (books.map (·.id)).Nodup) :
    ((books.flatMap of).map (·.b.id)).dedup.length = books.countP fun b => !(of b).isEmpty := by
  have perm : ((books.flatMap of).map (·.b.id)).dedup.Perm
      ((books.filter fun b => !(of b).isEmpty).map (·.id)) := by
    refine (List.perm_ext_iff_of_nodup (List.nodup_dedup _)
      (nodup.sublist (List.filter_sublist.map _))).2 fun id => ?_
    simp only [List.mem_dedup, List.mem_map, List.mem_flatMap, List.mem_filter]
    constructor
    · rintro ⟨t, ⟨b, listed, mem⟩, rfl⟩
      exact ⟨b, ⟨listed, by simpa using List.ne_nil_of_mem mem⟩, congrArg _ (own b t mem).symm⟩
    · rintro ⟨b, ⟨listed, some⟩, rfl⟩
      obtain ⟨t, mem⟩ := List.exists_mem_of_ne_nil _ (by simpa using some : of b ≠ [])
      exact ⟨t, ⟨b, listed, mem⟩, congrArg _ (own b t mem)⟩
  rw [perm.length_eq, List.length_map, List.countP_eq_length_filter]

end Groups

namespace Library

/-- The count of a statement is the number of the books that have a row which meets all
conditions. -/
theorem count_select (joinable : lib.Joinable)
    (regular : ∀ c ∈ p.criteria, c.Regular) :
    p.select.count lib (lib.hits p) p.args = (lib.candidates p).countP (·.any p.accepts) := by
  have selected := selected_select lib regular []
  rw [List.append_nil] at selected
  rw [Select.count, selected,
    length_dedup_ids (fun b t => book_of_mem_selectedOf joinable) joinable.nodup, candidates,
    List.countP_map]
  congr 1
  funext b
  have rows := congrArg List.isEmpty (map_selectedOf joinable p b)
  rw [List.isEmpty_map] at rows
  rw [rows, Function.comp_apply, Bool.eq_iff_iff]
  simp [List.filter_eq_nil_iff]

/-- The page of a statement has the rows of the page of a search. -/
theorem page_select (joinable : lib.Joinable)
    (regular : ∀ c ∈ p.criteria, c.Regular) :
    (p.select.page p.order lib (lib.hits p) (p.args ++ [.integer p.limit, .integer p.offset])).map
      Tuple.joined = pageRows p (lib.candidates p) := by
  -- with the authors joined, the rows are grouped
  have shown : (if p.select.grouped then firstOfEach (lib.books.flatMap (lib.selectedOf p))
        else lib.books.flatMap (lib.selectedOf p)).map Tuple.joined =
      (lib.candidates p).flatMap (matching p) := by
    have grouped : p.select.grouped = p.usesAuthors := rfl
    rw [grouped, candidates, List.flatMap_map]
    split
    case isTrue uses =>
      rw [firstOfEach_flatMap (fun b t => book_of_mem_selectedOf joinable) joinable.nodup,
        List.map_flatMap]
      simp only [List.map_take, map_selectedOf joinable, matching, if_pos uses]
    case isFalse uses =>
      rw [List.map_flatMap]
      simp only [map_selectedOf joinable, matching, if_neg uses]
  rw [Select.page, selected_select lib regular, arity_select, List.drop_left, pageRows, ← shown]
  dsimp only
  rw [slice_map]
  exact congrArg _ (List.map_mergeSort fun _ _ _ _ => rfl)

/-- A search that succeeds gives what its two statements give with their arguments: the count is
that of the one, and the books are those of the other's rows, with the names of their series and
genres and with their authors. -/
theorem search_evaluates {page : Page Book} {engine : Engine} (joinable : lib.Joinable)
    (ok : lib.search f engine = .ok page) :
    f.plan.count.text = f.plan.select.countText ∧
      f.plan.page.text = f.plan.select.pageText f.plan.order ∧
      page.total = f.plan.select.count lib (lib.hits f.plan) f.plan.count.args ∧
      page.items = lib.withAuthors
        ((f.plan.select.page f.plan.order lib (lib.hits f.plan) f.plan.page.args).map fun t =>
          t.b.book (t.s.map Named.name) (t.g.map Named.name)) := by
  obtain ⟨counted, paged⟩ := f.written
  refine ⟨congrArg Bound.text counted, congrArg Bound.text paged, ?_, ?_⟩
  · rw [search_total (search_lazy ok), counted, count_select joinable f.regular_criteria]
  · obtain ⟨_, _, items⟩ := search_eq_ok (search_lazy ok)
    rw [items, paged, ← page_select joinable f.regular_criteria, List.map_map]
    rfl

end Library

end BookCatalog
