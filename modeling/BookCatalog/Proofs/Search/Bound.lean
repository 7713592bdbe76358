import BookCatalog.Search.Plan
import Mathlib

/-!
# Values of a search

The text of a search says which kinds of conditions it has, and nothing of what is looked for. The
central notions:

* `Filter.SameShape`: two filters that ask for the same kinds of things.
* `Statement.erased`, `Criterion.erased`: a statement and a condition without their values. The text
  of a statement does not change when these are erased (`Statement.erased_run`).
* `Statement.Balanced`: a statement has a placeholder for each of its arguments. Every condition
  keeps it so.
-/

namespace BookCatalog

/-! ## Shapes -/

/-- The kinds of query texts: blank, with words, looked for as they stand, or of no effect. -/
inductive QueryKind where
  | blank
  | worded
  | contained
  | idle
  deriving DecidableEq, Repr

def queryKind (text : String) : QueryKind :=
  if text.toList.all Text.isBlank then .blank
  else if (Query.parse text.toList).clauses ≠ [] then .worded
  else if (Query.parse text.toList).fallback ≠ [] then .contained
  else .idle

/-- Two filters ask for as many names of each kind, restrict the same years, have queries of one
kind and order what they find by the same key in the same direction. -/
structure Filter.SameShape (f g : Filter) : Prop where
  query : queryKind f.query = queryKind g.query
  authors : f.authors.length = g.authors.length
  series : f.series.length = g.series.length
  genres : f.genres.length = g.genres.length
  languages : f.languages.length = g.languages.length
  formats : f.formats.length = g.formats.length
  yearFrom : 0 < f.yearFrom ↔ 0 < g.yearFrom
  yearTo : 0 < f.yearTo ↔ 0 < g.yearTo
  order : f.plan.order = g.plan.order

/-! ## Erased values -/

def Statement.erased (s : Statement) : Statement :=
  { s with args := [] }

def Criterion.erased : Criterion → Criterion
  | .indexed _ => .indexed []
  | .containing _ => .containing []
  | .named column names => .named column (names.map fun _ => "")
  | .yearFrom _ => .yearFrom 0
  | .yearTo _ => .yearTo 0

variable {f g : Filter}

namespace Statement

variable {s s' : Statement}

/-- A condition does not show which values it is given. -/
lemma erased_require (same : s.erased = s'.erased) (condition : String) (args args' : List Value) :
    (s.require condition args).erased = (s'.require condition args').erased := by
  show s.erased.require condition [] = s'.erased.require condition []
  rw [same]

/-- The authors are joined whatever the values are. -/
lemma erased_joinAuthors (same : s.erased = s'.erased) :
    s.joinAuthors.erased = s'.joinAuthors.erased := by
  have joined : ∀ t : Statement, t.joinAuthors.erased = t.erased.joinAuthors := by
    intro t
    cases once : t.authorsJoined with
    | false => simp [joinAuthors, erased, once]
    | true => simp [joinAuthors, erased, once]
  rw [joined, joined, same]

/-- How many values a column is compared with can be seen in a statement, but not which. -/
lemma erased_requireIn (same : s.erased = s'.erased) (column : String) {values values' : List Value}
    (length : values.length = values'.length) :
    (s.requireIn column values).erased = (s'.requireIn column values').erased := by
  rw [requireIn, requireIn]
  cases values with
  | nil =>
    cases List.length_eq_zero_iff.1 length.symm
    exact same
  | cons value values =>
    cases values' with
    | nil => cases length
    | cons value' values' =>
      rw [length]
      exact erased_require same _ _ _

/-- A condition leaves the same text with any value. -/
lemma erased_addTo {c d : Criterion} (same : s.erased = s'.erased) (kind : c.erased = d.erased) :
    (c.addTo s).erased = (d.addTo s').erased := by
  cases c with
  | indexed =>
    cases d with
    | indexed =>
      apply erased_require
      show s.erased.joinIndex = s'.erased.joinIndex
      rw [same]
    | _ => cases kind
  | containing =>
    cases d with
    | containing => exact erased_require (erased_joinAuthors same) _ _ _
    | _ => cases kind
  | named column names =>
    cases d with
    | named column' names' =>
      obtain ⟨rfl, blanks⟩ := Criterion.named.inj kind
      have length : (names.map Value.text).length = (names'.map Value.text).length := by
        simpa using congrArg List.length blanks
      cases column with
      | author => exact erased_requireIn (erased_joinAuthors same) _ length
      | _ => exact erased_requireIn same _ length
    | _ => cases kind
  | yearFrom =>
    cases d with
    | yearFrom => exact erased_require same _ _ _
    | _ => cases kind
  | yearTo =>
    cases d with
    | yearTo => exact erased_require same _ _ _
    | _ => cases kind

/-- The texts of a statement are those of the statement without its values. -/
lemma text_erased (s : Statement) (order : String) (limit offset : Value) :
    (s.page order limit offset).text = (s.erased.page order .null .null).text ∧
      s.count.text = s.erased.count.text :=
  ⟨rfl, rfl⟩

/-- Conditions of the same kinds make statements of the same text. -/
lemma erased_run {cs ds : List Criterion} (same : s.erased = s'.erased)
    (kinds : cs.map Criterion.erased = ds.map Criterion.erased) :
    (cs.foldl Criterion.addTo s).erased = (ds.foldl Criterion.addTo s').erased := by
  induction cs generalizing s s' ds with
  | nil =>
    cases List.map_eq_nil_iff.1 kinds.symm
    exact same
  | cons c cs ih =>
    cases ds with
    | nil => cases kinds
    | cons d ds =>
      obtain ⟨kind, kinds⟩ := List.cons.inj kinds
      exact @ih (c.addTo s) (d.addTo s') ds (erased_addTo same kind) kinds

end Statement

/-! ## Filters of one shape -/

/-- Of a query only its kind is left without its values. -/
lemma erased_queryCriteria (text : String) :
    (queryCriteria text).map Criterion.erased =
      match queryKind text with
      | .blank | .idle => []
      | .worded => [.indexed []]
      | .contained => [.containing []] := by
  rw [queryCriteria, queryKind]
  by_cases blank : text.toList.all Text.isBlank = true
  · rw [if_pos blank, if_pos blank]
    rfl
  · rw [if_neg blank, if_neg blank]
    by_cases words : (Query.parse text.toList).clauses = []
    · by_cases nothing : (Query.parse text.toList).fallback = []
      · simp [words, nothing]
      · simp [words, nothing, Criterion.erased]
    · simp [words, Criterion.erased]

/-- Of names only their number is left. -/
lemma erased_nameCriteria (column : NameColumn) {names names' : List String}
    (length : names.length = names'.length) :
    (nameCriteria column names).map Criterion.erased =
      (nameCriteria column names').map Criterion.erased := by
  cases names with
  | nil =>
    cases List.length_eq_zero_iff.1 length.symm
    rfl
  | cons name names =>
    cases names' with
    | nil => cases length
    | cons name' names' =>
      show [Criterion.named column ((name :: names).map fun _ => "")] =
        [Criterion.named column ((name' :: names').map fun _ => "")]
      rw [List.map_const', List.map_const', length]

/-- Of a year only whether it restricts is left. -/
lemma erased_yearCriteria {year year' : Int} {criterion : Int → Criterion}
    (restricts : 0 < year ↔ 0 < year')
    (same : ∀ n n', (criterion n).erased = (criterion n').erased) :
    (if 0 < year then [criterion year] else []).map Criterion.erased =
      (if 0 < year' then [criterion year'] else []).map Criterion.erased := by
  by_cases some : 0 < year
  · rw [if_pos some, if_pos (restricts.1 some)]
    exact congrArg (fun c => [c]) (same year year')
  · rw [if_neg some, if_neg (restricts.not.1 some)]

/-- The conditions of filters of one shape differ in their values only. -/
lemma Filter.SameShape.erased_criteria (shape : f.SameShape g) :
    f.criteria.map Criterion.erased = g.criteria.map Criterion.erased := by
  simp only [Filter.criteria, List.map_append]
  rw [erased_queryCriteria, erased_queryCriteria, shape.query,
    erased_nameCriteria .author shape.authors, erased_nameCriteria .series shape.series,
    erased_nameCriteria .genre shape.genres, erased_nameCriteria .language shape.languages,
    erased_nameCriteria .format shape.formats,
    erased_yearCriteria shape.yearFrom fun _ _ =>
      rfl, erased_yearCriteria shape.yearTo fun _ _ => rfl]

/-- Filters that ask for the same kinds of things have the same statement but for its values. -/
lemma Filter.SameShape.erased_statement (shape : f.SameShape g) :
    f.plan.statement.erased = g.plan.statement.erased := by
  show (f.criteria.foldl Criterion.addTo {}).erased = (g.criteria.foldl Criterion.addTo {}).erased
  exact Statement.erased_run rfl shape.erased_criteria

/-! ## Placeholders -/

/-- The number of placeholders in a text. -/
def marks (text : String) : Nat :=
  text.toList.count '?'

/-- The placeholders of two texts are added up. -/
@[simp] lemma marks_append (a b : String) : marks (a ++ b) = marks a + marks b := by
  rw [marks, String.toList_append, List.count_append]
  rfl

/-- The same for texts whose placeholders are counted already. -/
lemma marks_appended {a b : String} (m n : Nat) (left : marks a = m) (right : marks b = n) :
    marks (a ++ b) = m + n := by
  rw [marks_append, left, right]

/-- Placeholders of a literal are counted in its characters. -/
lemma marks_ofList (chars : List Char) : marks (String.ofList chars) = chars.count '?' := by
  rw [marks, String.toList_ofList]

/-- The placeholders of joined texts are added up. -/
lemma marks_join (texts : List String) : marks (String.join texts) = (texts.map marks).sum := by
  rw [marks, String.toList_join, List.count_flatMap]
  rfl

/-- What stands between texts adds no placeholder if it has none. -/
lemma marks_intercalate {sep : String} (free : marks sep = 0) (texts : List String) :
    marks (String.intercalate sep texts) = (texts.map marks).sum := by
  induction texts with
  | nil => rfl
  | cons first rest ih =>
    cases rest with
    | nil => simp [String.intercalate_singleton]
    | cons second rest =>
      rw [String.intercalate_cons_of_ne_nil (by simp), marks_append, marks_append, free, ih]
      simp

/-- A list of placeholders has as many as it is asked for. -/
lemma marks_placeholders (n : Nat) : marks (Statement.placeholders n) = n := by
  have between : marks ", " = 0 := marks_ofList _
  have one : marks "?" = 1 := marks_ofList _
  rw [Statement.placeholders, marks_intercalate between, List.map_replicate, List.sum_replicate,
    one, smul_eq_mul, mul_one]

/-- The columns have no placeholders. -/
lemma marks_selectedColumns : marks selectedColumns = 0 := by
  unfold selectedColumns
  refine marks_appended 0 0 ?_ (marks_ofList _)
  refine marks_appended 0 0 ?_ (marks_ofList _)
  exact marks_appended 0 0 (marks_ofList _) (marks_ofList _)

/-- A part of a text is compared with four columns. -/
lemma marks_containsCondition : marks containsCondition = 4 := by
  unfold containsCondition
  exact marks_appended 2 2 (marks_ofList _) (marks_ofList _)

/-- The order has no placeholders. -/
lemma marks_clause (o : Order) : marks o.clause = 0 := by
  obtain ⟨key, descending⟩ := o
  cases key <;> cases descending <;> decide +kernel

namespace Statement

variable {s : Statement}

/-- The joins have no placeholders, and the conditions have as many as there are arguments. -/
structure Balanced (s : Statement) : Prop where
  joins : ∀ join ∈ s.joins, marks join = 0
  conditions : (s.conditions.map marks).sum = s.args.length

/-- Joins without placeholders keep a statement balanced. -/
lemma Balanced.join {s' : Statement} (balanced : s.Balanced) {more : List String}
    (free : ∀ join ∈ more, marks join = 0) (joins : s'.joins = s.joins ++ more)
    (conditions : s'.conditions = s.conditions) (args : s'.args = s.args) : s'.Balanced where
  joins := joins ▸ List.forall_mem_append.2 ⟨balanced.joins, free⟩
  conditions := by rw [conditions, args, balanced.conditions]

/-- The authors are joined without placeholders. -/
lemma Balanced.joinAuthors (balanced : s.Balanced) : s.joinAuthors.Balanced := by
  rw [Statement.joinAuthors]
  split
  case isTrue => exact balanced
  case isFalse =>
    have free : ∀ join ∈ authorJoins, marks join = 0 := by decide +kernel
    exact balanced.join free rfl rfl rfl

/-- The index is joined without placeholders. -/
lemma Balanced.joinIndex (balanced : s.Balanced) : s.joinIndex.Balanced := by
  have free : ∀ join ∈ [indexJoin], marks join = 0 := by decide +kernel
  exact balanced.join free rfl rfl rfl

/-- A condition with its own arguments keeps a statement balanced. -/
lemma Balanced.require (balanced : s.Balanced) {condition : String} {args : List Value}
    (each : marks condition = args.length) : (s.require condition args).Balanced where
  joins := balanced.joins
  conditions := by
    rw [Statement.require, List.map_append, List.sum_append, balanced.conditions,
      List.length_append]
    simp [each]

/-- So does a condition that a column has one of some values. -/
lemma Balanced.requireIn (balanced : s.Balanced) {column : String} (free : marks column = 0)
    (values : List Value) : (s.requireIn column values).Balanced := by
  rw [Statement.requireIn]
  split
  case isTrue => exact balanced
  case isFalse =>
    apply balanced.require
    have before : marks " IN (" = 0 := marks_ofList _
    have behind : marks ")" = 0 := marks_ofList _
    rw [marks_append, marks_append, marks_append, marks_placeholders, free, before, behind]
    omega

/-- Every condition brings as many arguments as it has placeholders. -/
theorem Balanced.addTo (balanced : s.Balanced) (c : Criterion) : (c.addTo s).Balanced := by
  cases c with
  | indexed clauses =>
    apply balanced.joinIndex.require
    exact marks_ofList _
  | containing text =>
    apply balanced.joinAuthors.require
    rw [marks_containsCondition, List.length_replicate]
  | named column names =>
    have free : marks column.source = 0 := by cases column <;> exact marks_ofList _
    cases column with
    | author => exact balanced.joinAuthors.requireIn free _
    | _ => exact balanced.requireIn free _
  | yearFrom year =>
    apply balanced.require
    exact marks_ofList _
  | yearTo year =>
    apply balanced.require
    exact marks_ofList _

/-- So do any number of conditions. -/
lemma balanced_run (balanced : s.Balanced) (cs : List Criterion) :
    (cs.foldl Criterion.addTo s).Balanced := by
  induction cs generalizing s with
  | nil => exact balanced
  | cons c rest ih => exact ih (balanced.addTo c)

/-- The statement of a plan is balanced. -/
lemma balanced_statement (p : Plan) : p.statement.Balanced := by
  apply balanced_run
  exact ⟨by decide +kernel, rfl⟩

/-- All placeholders of a statement are in its conditions. -/
lemma Balanced.marks_body (balanced : s.Balanced) : marks s.body = s.args.length := by
  have joins : marks (String.join (s.joins.map (" " ++ ·))) = 0 := by
    rw [marks_join, List.map_map, List.sum_eq_zero_iff]
    intro n mem
    obtain ⟨join, listed, rfl⟩ := List.mem_map.1 mem
    have blank : marks " " = 0 := marks_ofList _
    show marks (" " ++ join) = 0
    rw [marks_append, blank, balanced.joins join listed]
  have start : marks " FROM books b" = 0 := marks_ofList _
  rw [body, marks_append, marks_append, joins, start, ← balanced.conditions]
  split
  case isTrue none =>
    rw [List.isEmpty_iff.1 none]
    rfl
  case isFalse =>
    have before : marks " WHERE " = 0 := marks_ofList _
    have between : marks " AND " = 0 := marks_ofList _
    rw [marks_append, before, marks_intercalate between]
    omega

/-- A page has a placeholder for each argument, besides those of the order. -/
lemma Balanced.marks_page (balanced : s.Balanced) (order : String) (limit offset : Value) :
    marks (s.page order limit offset).text =
      marks order + (s.page order limit offset).args.length := by
  have start : marks "SELECT " = 0 := marks_ofList _
  have group : marks (if s.authorsJoined then " GROUP BY b.id" else "") = 0 := by
    split <;> exact marks_ofList _
  have between : marks " ORDER BY " = 0 := marks_ofList _
  have slice : marks " LIMIT ? OFFSET ?" = 2 := marks_ofList _
  simp only [page, marks_append, List.length_append, List.length_cons, List.length_nil]
  rw [start, marks_selectedColumns, balanced.marks_body, group, between, slice]
  omega

/-- The arguments of a page are those of the count, the limit and the offset. -/
lemma args_page (s : Statement) (order : String) (limit offset : Value) :
    (s.page order limit offset).args = s.count.args ++ [limit, offset] :=
  rfl

/-- The count has a placeholder for each argument. -/
lemma Balanced.marks_count (balanced : s.Balanced) : marks s.count.text = s.count.args.length := by
  have start : marks "SELECT COUNT(DISTINCT b.id)" = 0 := marks_ofList _
  calc marks s.count.text
      = marks "SELECT COUNT(DISTINCT b.id)" + marks s.body := marks_append _ s.body
    _ = s.args.length := by rw [start, balanced.marks_body, Nat.zero_add]

end Statement

/-! ## Searches -/

/-- What is looked for is not part of the text of a search: filters of one shape have the same
texts, every placeholder has its argument, and the page has two arguments more than the count, its
limit and its offset. -/
theorem Filter.values_bound (f : Filter) :
    (∀ g, f.SameShape g →
      f.plan.page.text = g.plan.page.text ∧ f.plan.count.text = g.plan.count.text) ∧
    marks f.plan.page.text = f.plan.page.args.length ∧
    marks f.plan.count.text = f.plan.count.args.length ∧
    f.plan.page.args =
      f.plan.count.args ++ [.integer (pageLimit f.limit), .integer (pageOffset f.offset)] := by
  have balanced := Statement.balanced_statement f.plan
  refine ⟨fun g shape => ?_, ?_, ?_, ?_⟩
  · simp only [Plan.page, Plan.count]
    obtain ⟨page, count⟩ := f.plan.statement.text_erased f.plan.order.clause
      (.integer f.plan.limit) (.integer f.plan.offset)
    obtain ⟨page', count'⟩ := g.plan.statement.text_erased g.plan.order.clause
      (.integer g.plan.limit) (.integer g.plan.offset)
    rw [page, page', count, count', shape.erased_statement, shape.order]
    exact ⟨rfl, rfl⟩
  · rw [Plan.page, balanced.marks_page, marks_clause, Nat.zero_add]
  · rw [Plan.count]
    exact balanced.marks_count
  · rw [Plan.page, Plan.count, Statement.args_page]
    rfl

/-- Names and queries with question marks, quotes and statements of their own leave no trace in the
text. -/
theorem hostile_values_bound :
    let f : Filter := { query := "rose", authors := ["Eco"], yearFrom := 1980 }
    let g : Filter :=
      { query := "x' OR '1'='1' --?", authors := ["'); DROP TABLE books; --?"], yearFrom := 1
        limit := -5, offset := 10 ^ 30, sortOrder := "DESC" }
    f.SameShape g ∧ f.plan.page.text = g.plan.page.text ∧
      f.plan.count.text = g.plan.count.text := by
  intro f g
  have shape : f.SameShape g :=
    { query := by decide +kernel
      authors := rfl
      series := rfl
      genres := rfl
      languages := rfl
      formats := rfl
      yearFrom := by decide
      yearTo := by decide
      order := by decide +kernel }
  exact ⟨shape, (Filter.values_bound f).1 g shape⟩

end BookCatalog
