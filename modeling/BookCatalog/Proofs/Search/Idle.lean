import BookCatalog.Proofs.Query.Gaps
import BookCatalog.Search.Plan

/-!
# Queries that ask for nothing

A query has no expression exactly if neither its remainder nor the value of a qualifier that is cut
out has a letter or a digit (`expression_eq_nil_iff`). What is looked for is then the remainder:
where that is blank, there are no words to put in its place (`fallback_eq_squeeze`). Nothing is
looked for at all if the query consists of blanks and of qualifiers without words, that is, if all
its pieces are idle (`Segment.Idle`).
-/

namespace BookCatalog

namespace Text

variable {p : Char → Bool} {c : Char} {cs : List Char}

/-- There are no runs where there is no character for one. -/
lemma runs_eq_nil_iff : runs p cs = [] ↔ ∀ c ∈ cs, p c = false := by
  refine ⟨not_mem_of_runs_nil, fun outside => List.eq_nil_iff_forall_not_mem.2 fun run listed => ?_⟩
  obtain ⟨some, inside⟩ := of_mem_runs listed
  obtain ⟨c, own⟩ := List.exists_mem_of_ne_nil run some
  obtain ⟨holds, mem⟩ := inside c own
  rw [outside c mem] at holds
  cases holds

/-! ## Blanks -/

/-- Leaving out blanks in front takes no other character away. -/
lemma mem_dropWhile_isBlank (nonblank : isBlank c = false) : c ∈ cs.dropWhile isBlank ↔ c ∈ cs := by
  constructor
  · exact fun mem => (List.dropWhile_sublist _).subset mem
  · intro mem
    rw [← List.takeWhile_append_dropWhile (p := isBlank) (l := cs), List.mem_append] at mem
    refine mem.resolve_left fun taken => ?_
    rw [List.mem_takeWhile_imp taken] at nonblank
    cases nonblank

/-- Stripping takes off blanks only. -/
lemma mem_strip (nonblank : isBlank c = false) : c ∈ strip cs ↔ c ∈ cs := by
  rw [strip, stripEnd, List.mem_reverse, mem_dropWhile_isBlank nonblank, List.mem_reverse,
    mem_dropWhile_isBlank nonblank]

/-- Nothing comes of joining only if there is nothing to join. -/
lemma joinWith_eq_nil {sep : List Char} {fields : List (List Char)}
    (some : ∀ field ∈ fields, field ≠ []) :
    joinWith sep fields = [] ↔ fields = [] := by
  cases fields with
  | nil => exact iff_of_true rfl rfl
  | cons first rest =>
    refine iff_of_false (fun empty => ?_) (List.cons_ne_nil _ _)
    exact some first List.mem_cons_self (List.append_eq_nil_iff.1 empty).1

/-- Only blanks are squeezed to nothing. -/
lemma squeeze_eq_nil_iff : squeeze cs = [] ↔ ∀ c ∈ cs, isBlank c = true := by
  rw [squeeze, joinWith_eq_nil fun run listed => (of_mem_runs listed).1, runs_eq_nil_iff]
  simp only [Bool.not_eq_false']

end Text

namespace Query

open Text

/-- A piece that asks for nothing: a blank gap, or a qualifier that is cut out and has no letter or
digit in its value. -/
def Segment.Idle : Segment → Prop
  | .gap text => ∀ c ∈ text, isBlank c = true
  | .qualifier q => (Column.ofName? q.name).isSome = true ∧ ∀ c ∈ q.value, isAlnum c = false

variable {c : Char} {cs value : List Char} {pieces : List Segment}

/-- A text without words has no letters or digits. -/
lemma words_eq_nil_iff : words cs = [] ↔ ∀ c ∈ cs, isAlnum c = false := by
  refine ⟨unlettered_of_words_nil, fun unlettered => ?_⟩
  rw [words, runs_eq_nil_iff.2 unlettered]
  rfl

/-! ## Values -/

/-- Escapes are resolved by dropping backslashes only. -/
lemma mem_unescapeFrom (other : c ≠ '\\') (out : List Char) :
    c ∈ unescapeFrom out cs ↔ c ∈ out ∨ c ∈ cs := by
  fun_induction unescapeFrom out cs with
  | case1 out => simp
  | case2 out => simp [other]
  | case3 out d rest ih => simp [ih, other, or_assoc, or_left_comm]
  | case4 out d rest _ _ ih => simp [ih, or_assoc, or_left_comm]

/-- A letter or digit stands in what a value stands for exactly if it stands in the value. -/
lemma mem_unquote (alnum : isAlnum c = true) : c ∈ unquote value ↔ c ∈ value := by
  have other : c ≠ '\\' ∧ c ≠ '"' := by
    constructor <;> rintro rfl <;> cases alnum
  have nonblank : isBlank c = false := by
    cases blank : isBlank c with
    | false => rfl
    | true => rw [not_alnum_of_blank blank] at alnum; cases alnum
  have stripped : c ∈ strip value ↔ c ∈ value := mem_strip nonblank
  rw [unquote, ← stripped]
  cases inside : insideQuotes? (strip value) with
  | none => rfl
  | some text =>
    rw [insideQuotes?.eq_def] at inside
    split at inside
    · next rest whole =>
      split at inside
      · next last =>
        obtain ⟨front, rfl⟩ := List.getLast?_eq_some_iff.1 last
        cases inside
        simp [whole, mem_unescapeFrom other.1, other.2]
      · cases inside
    · cases inside

/-- Quotes and backslashes do not make letters or digits of a value. -/
lemma unlettered_unquote : (∀ c ∈ unquote value, isAlnum c = false) ↔
    ∀ c ∈ value, isAlnum c = false := by
  simp only [← Bool.not_eq_true]
  exact forall_congr' fun c => ⟨fun absent mem alnum => absent ((mem_unquote alnum).2 mem) alnum,
    fun absent mem alnum => absent ((mem_unquote alnum).1 mem) alnum⟩

/-! ## Expressions -/

/-- The text of a clause is not empty. -/
lemma clause_text_ne_nil (clause : Clause) : clause.text ≠ [] := by
  cases clause with
  | anywhere => exact List.cons_ne_nil _ _
  | within column word =>
    rw [Clause.text, columnTerm]
    exact fun empty => List.cons_ne_nil _ _ (List.append_eq_nil_iff.1 empty).2

/-- A query has no expression if it has no clauses. -/
lemma expression_eq_nil {q : Query} : q.expression = [] ↔ q.clauses = [] := by
  have some : ∀ text ∈ q.clauses.map Clause.text, text ≠ [] :=
    List.forall_mem_map.2 fun clause _ => clause_text_ne_nil clause
  rw [expression, expressionOf, joinWith_eq_nil some, List.map_eq_nil_iff]

/-- A query has no clauses if it has no words at all. -/
lemma clauses_eq_nil_iff : (parse cs).clauses = [] ↔
    (parse cs).general = [] ∧ ∀ column, (parse cs).terms column = [] := by
  obtain ⟨general, within⟩ := parse_cut cs
  simp only [List.eq_nil_iff_forall_not_mem]
  constructor
  · intro none
    refine ⟨fun w mem => ?_, fun column w mem => ?_⟩
    · exact none _ (mem_clauses.2 (.inl ⟨w, (mem_distinct (general w mem).1).2 mem, rfl⟩))
    · exact none _
        (mem_clauses.2 (.inr ⟨column, w, (mem_distinct (within column w mem).1).2 mem, rfl⟩))
  · rintro ⟨general, terms⟩ clause listed
    rcases mem_clauses.1 listed with ⟨w, mem, -⟩ | ⟨column, w, mem, -⟩
    · exact general w (ne_nil_of_mem_distinct mem).2
    · exact terms column w (ne_nil_of_mem_distinct mem).2

/-- The pieces ask for nothing in any column exactly if the values that are cut out have no
words. -/
lemma terms_eq_nil_iff : (∀ column, pieces.flatMap (Segment.terms column) = []) ↔
    ∀ q : Qualifier, .qualifier q ∈ pieces → (Column.ofName? q.name).isSome = true →
      ∀ c ∈ q.value, isAlnum c = false := by
  simp only [List.flatMap_eq_nil_iff]
  constructor
  · intro none q mem named
    obtain ⟨column, found⟩ := Option.isSome_iff_exists.1 named
    have wordless := none column _ mem
    rw [Segment.terms, if_pos found, words_eq_nil_iff, unlettered_unquote] at wordless
    exact wordless
  · intro unlettered column piece mem
    cases piece with
    | gap => rfl
    | qualifier q =>
      rw [Segment.terms]
      split
      · next found =>
        exact words_eq_nil_iff.2 (unlettered_unquote.2 (unlettered q mem (by rw [found]; rfl)))
      · rfl

/-- A query has no expression exactly if neither its remainder nor a value that is cut out has a
letter or digit. -/
lemma expression_eq_nil_iff : (parse cs).expression = [] ↔
    (∀ c ∈ (parse cs).remainder, isAlnum c = false) ∧
      ∀ q : Qualifier, .qualifier q ∈ segments cs → (Column.ofName? q.name).isSome = true →
        ∀ c ∈ q.value, isAlnum c = false := by
  rw [expression_eq_nil, clauses_eq_nil_iff, general_eq, words_eq_nil_iff]
  simp only [terms_parse, terms_eq_nil_iff]

/-! ## What is looked for instead -/

/-- A blank remainder has no words. -/
lemma general_of_squeeze (blank : squeeze (parse cs).remainder = []) : (parse cs).general = [] := by
  rw [general_eq]
  exact words_of_blank (List.all_eq_true.2 (squeeze_eq_nil_iff.1 blank))

/-- The remainder of a query is looked for, and words without qualifier never take its place. -/
lemma fallback_eq_squeeze (cs : List Char) :
    (parse cs).fallback = squeeze (parse cs).remainder := by
  rw [fallback]
  split
  · next blank =>
    rw [general_of_squeeze (List.isEmpty_iff.1 blank)]
    exact (List.isEmpty_iff.1 blank).symm
  · rfl

/-! ## Nothing -/

/-- What is left of a query is blank exactly if its gaps are, and all its qualifiers are cut out. -/
lemma squeeze_remainder_eq_nil : squeeze (parse cs).remainder = [] ↔
    ∀ piece ∈ segments cs, ∀ c ∈ piece.kept, isBlank c = true := by
  have pieces : (∀ c ∈ (segments cs).flatMap Segment.kept, isBlank c = true) ↔
      ∀ piece ∈ segments cs, ∀ c ∈ piece.kept, isBlank c = true := by
    simp only [List.mem_flatMap]
    exact ⟨fun all piece mem c own => all c ⟨piece, mem, own⟩,
      fun all c ⟨piece, mem, own⟩ => all piece mem c own⟩
  rw [squeeze_eq_nil_iff, remainder_parse, ← pieces]
  split
  · next blank =>
    refine iff_of_true nofun fun c mem => ?_
    rw [flatMap_segments_of_clear additive_kept (clear_of_blank blank)] at mem
    exact List.all_eq_true.1 blank c mem
  · rfl

/-- A piece is idle exactly if it leaves nothing but blanks and has no words in a value that is cut
out. -/
lemma idle_iff (piece : Segment) : piece.Idle ↔ (∀ c ∈ piece.kept, isBlank c = true) ∧
    ∀ q : Qualifier, .qualifier q = piece → (Column.ofName? q.name).isSome = true →
      ∀ c ∈ q.value, isAlnum c = false := by
  cases piece with
  | gap text =>
    refine ⟨fun blank => ⟨blank, fun q own => ?_⟩, And.left⟩
    cases own
  | qualifier q =>
    rw [Segment.Idle, Segment.kept]
    split
    · next named => simp [named]
    · next unnamed =>
      refine iff_of_false (fun idle => unnamed idle.1) fun both => ?_
      have colon : isBlank ':' = true := both.1 ':' (by simp [Qualifier.source])
      cases colon

/-- All pieces of a query are idle exactly if it has neither an expression nor a text to look
for. -/
lemma forall_idle_iff : (∀ piece ∈ segments cs, piece.Idle) ↔
    (parse cs).clauses = [] ∧ (parse cs).fallback = [] := by
  have values : (∀ piece ∈ segments cs, ∀ q : Qualifier, .qualifier q = piece →
      (Column.ofName? q.name).isSome = true → ∀ c ∈ q.value, isAlnum c = false) ↔
        ∀ column, (parse cs).terms column = [] := by
    simp only [terms_parse, terms_eq_nil_iff]
    exact ⟨fun all q mem => all _ mem q rfl, fun all piece mem q own => all q (own ▸ mem)⟩
  simp only [idle_iff, forall_and]
  rw [values, ← squeeze_remainder_eq_nil, clauses_eq_nil_iff, fallback_eq_squeeze]
  exact ⟨fun ⟨blank, terms⟩ => ⟨⟨general_of_squeeze blank, terms⟩, blank⟩,
    fun ⟨⟨_, terms⟩, blank⟩ => ⟨blank, terms⟩⟩

end Query

namespace Filter

open Query

/-- Nothing is looked for if all pieces of the query are idle. -/
lemma queryCriteria_eq_nil (text : String) :
    queryCriteria text = [] ↔ ∀ piece ∈ segments text.toList, piece.Idle := by
  rw [forall_idle_iff, queryCriteria]
  split
  · next blank =>
    rw [parse, if_pos blank]
    exact iff_of_true rfl (by decide)
  · by_cases unworded : (parse text.toList).clauses = []
    · by_cases blank : (parse text.toList).fallback = []
      · simp [unworded, blank]
      · simp [unworded, blank]
    · simp [unworded]

/-- A query changes the plan of a filter exactly if it asks for something. -/
lemma plan_query_iff (f : Filter) (text : String) :
    { f with query := text }.plan = { f with query := "" }.plan ↔ queryCriteria text = [] := by
  have none : queryCriteria "" = [] := by decide
  constructor
  · intro same
    have criteria := congrArg Plan.criteria same
    simp only [Filter.plan, Filter.criteria, none, List.append_assoc, List.nil_append] at criteria
    exact List.append_left_eq_self.1 criteria
  · intro same
    simp only [Filter.plan, Filter.criteria, none, same]

end Filter

/-- **When a query falls through.** It has no expression exactly if neither its remainder nor the
value of a qualifier that is cut out has a letter or digit, and a value has one exactly if what it
stands for has. What is looked for without an expression is the remainder with its blanks tidied,
and it has no letter or digit: words never take the place of a blank remainder, as there are none. A
query leaves a search as it is without one exactly if all its pieces are idle. -/
theorem Query.parse_falls_through (text : String) :
    ((parse text.toList).expression = [] ↔
      (∀ c ∈ (parse text.toList).remainder, Text.isAlnum c = false) ∧
        ∀ q : Qualifier, .qualifier q ∈ segments text.toList →
          (Column.ofName? q.name).isSome = true → ∀ c ∈ q.value, Text.isAlnum c = false) ∧
    (∀ value, (∀ c ∈ unquote value, Text.isAlnum c = false) ↔
      ∀ c ∈ value, Text.isAlnum c = false) ∧
    (parse text.toList).fallback = Text.squeeze (parse text.toList).remainder ∧
    ((parse text.toList).expression = [] →
      ∀ c ∈ (parse text.toList).fallback, Text.isAlnum c = false) ∧
    (Text.squeeze (parse text.toList).remainder = [] → (parse text.toList).general = []) ∧
    ∀ f : Filter, { f with query := text }.plan = { f with query := "" }.plan ↔
      ∀ piece ∈ segments text.toList, piece.Idle := by
  refine ⟨expression_eq_nil_iff, fun value => unlettered_unquote, fallback_eq_squeeze _,
    fun unworded c mem => ?_, general_of_squeeze, fun f => ?_⟩
  · exact (mem_fallback (expression_eq_nil.1 unworded) mem).1
  · rw [Filter.plan_query_iff, Filter.queryCriteria_eq_nil]

end BookCatalog
