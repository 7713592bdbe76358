import BookCatalog.Proofs.Search.Evaluation
import BookCatalog.Proofs.Search.Parts
import BookCatalog.Proofs.Session.Content

/-!
# Searches after a run

After every run of a session that is the only one to write to its library:

* `Log.search_run`: a filter whose query is blank or has words finds exactly the books whose last
  committed submissions have what it asks for, if the index takes the characters of these words for
  parts of words too.
* `Log.matched_run`: a filter finds what all of its parts find. A query without words that is
  combined with authors is the exception: one and the same author has to do for both.
* `Log.statements_run`: a search gives what its two statements give with their arguments.
-/

namespace BookCatalog

/-- The ids of the books that a search selects, on whatever page; none if the search fails. -/
def Session.matched (s : Session) (f : Filter) : Set String :=
  {id | (∃ page, s.search { f with limit := 0, offset := 0 } = .ok page) ∧
    id ∈ (s.library.results f).map (·.id)}

/-- The pages that a search gives are parts of a list of books, which is counted as a whole. -/
def Session.Lists (s : Session) (f : Filter) (books : List Book) : Prop :=
  ∀ limit offset, fitsColumn limit = true → fitsColumn offset = true →
    s.search { f with limit, offset } = .ok
      { items := slice (pageLimit limit) (pageOffset offset) books
        total := books.length
        limit := pageLimit limit
        offset := pageOffset offset }

namespace Log

variable {log : Log} {f : Filter} {id : String}

/-- A search looks at the content. -/
lemma Faithful.search_eq (faithful : log.Faithful) (f : Filter) :
    log.session.search f = log.session.content.search f := by
  rw [Session.search, faithful.opened_eq]
  rfl

/-- A limit that fits stands for one that fits. -/
lemma fitsColumn_pageLimit {limit : Int} (fits : fitsColumn limit = true) :
    fitsColumn (pageLimit limit) = true := by
  rw [pageLimit]
  split
  · exact fits
  · decide

/-- An offset that fits stands for one that fits. -/
lemma fitsColumn_pageOffset {offset : Int} (fits : fitsColumn offset = true) :
    fitsColumn (pageOffset offset) = true := by
  rw [fitsColumn, Bool.and_eq_true, decide_eq_true_eq, decide_eq_true_eq] at fits ⊢
  rw [pageOffset]
  omega

/-- A search whose integers fit and whose pattern is short enough lists the result. -/
lemma Faithful.lists_of_simple (faithful : log.Faithful)
    (inside : ∀ n ∈ f.plan.integers, fitsColumn n = true)
    (simple : Library.needSimple f.plan (log.session.content.candidates f.plan) = .ok ()) :
    log.session.Lists f (log.session.content.results f) := by
  intro limit offset limited skipped
  rw [faithful.search_eq]
  refine Library.search_eq (f := { f with limit, offset }) faithful.ready
    faithful.represents.tidy (fun n mem => ?_) simple
  rcases List.mem_append.1 mem with inner | page
  · exact inside n inner
  · simp only [List.mem_cons, List.not_mem_nil, or_false] at page
    rcases page with rfl | rfl
    · exact fitsColumn_pageLimit limited
    · exact fitsColumn_pageOffset skipped

/-- A search that succeeds gives what its statements give with their arguments, in whatever order
the engine looks at the conditions. -/
theorem statements_run (settings : Settings) (threshold : Int) (calls : List Call) (f : Filter)
    (engine : Engine) {page : Page Book} :
    let log := (start settings threshold).run calls
    let lib := log.session.library
    log.session.search f engine = .ok page →
      f.plan.count.text = f.plan.select.countText ∧
        f.plan.page.text = f.plan.select.pageText f.plan.order ∧
        page.total = f.plan.select.count lib (lib.hits f.plan) f.plan.count.args ∧
        page.items = lib.withAuthors
          ((f.plan.select.page f.plan.order lib (lib.hits f.plan) f.plan.page.args).map fun t =>
            t.b.book (t.s.map Named.name) (t.g.map Named.name)) := by
  intro log lib found
  have faithful : log.Faithful := faithful_run settings threshold calls
  have seen : lib = log.session.content := faithful.library_eq
  rw [Session.search, faithful.opened_eq] at found
  exact Library.search_evaluates (seen ▸ faithful.represents.joinable) (seen ▸ found)

/-- A search that the engine takes lists the result. -/
lemma Faithful.lists (faithful : log.Faithful) (allowed : f.Allowed) :
    log.session.Lists f (log.session.content.results f) := by
  refine faithful.lists_of_simple (fun n mem => ?_)
    (Library.needSimple_of_criteria (fun c listed => (allowed c listed).1) _)
  obtain ⟨c, listed, own⟩ := List.mem_flatMap.1 mem
  exact (allowed c listed).2 n own

/-- A search finds the books whose last submissions it selects, if the engine takes it. -/
lemma Faithful.mem_matched (faithful : log.Faithful) :
    id ∈ log.session.matched f ↔
      f.Allowed ∧ ∃ s, lastWith? id log.committed = some s ∧ f.Selects s := by
  rw [Session.matched, Set.mem_ofPred_eq, faithful.library_eq]
  constructor
  · rintro ⟨⟨page, found⟩, listed⟩
    rw [faithful.search_eq] at found
    obtain ⟨fits, simple, -⟩ := Library.search_eq_ok found
    have inside : ∀ c ∈ f.criteria, ∀ n ∈ c.integers, fitsColumn n = true := fun c own n mem =>
      fits n (List.mem_append_left _ (List.mem_flatMap.2 ⟨c, own, mem⟩))
    refine ⟨fun c own => ⟨?_, inside c own⟩, faithful.represents.mem_results_ids.1 listed⟩
    obtain ⟨book, mem, -⟩ := List.mem_map.1 listed
    obtain ⟨j, mem, -⟩ := List.mem_map.1 mem
    exact Library.simple_of_found simple mem c own
  · rintro ⟨allowed, last⟩
    exact ⟨⟨_, faithful.lists allowed 0 0 (by decide) (by decide)⟩,
      faithful.represents.mem_results_ids.2 last⟩

/-- The engine takes a filter whose query is not looked for as it stands, if its years fit. -/
lemma allowed_of_worded (worded : f.Worded) (first : fitsColumn f.yearFrom = true)
    (last : fitsColumn f.yearTo = true) : f.Allowed := by
  refine Filter.forall_criteria.2 ⟨?_, fun _ => ⟨rfl, nofun⟩, fun _ => ⟨rfl, nofun⟩,
    fun _ => ⟨rfl, nofun⟩, fun _ => ⟨rfl, nofun⟩, fun _ => ⟨rfl, nofun⟩,
    fun _ => ⟨rfl, List.forall_mem_singleton.2 first⟩,
    fun _ => ⟨rfl, List.forall_mem_singleton.2 last⟩⟩
  rcases queryCriteria_cases f.query with ⟨none, -⟩ | ⟨-, indexed⟩ | ⟨-, -, contains⟩
  · rw [none]
    exact nofun
  · rw [indexed, List.forall_mem_singleton]
    exact ⟨rfl, nofun⟩
  · exact absurd (contains ▸ List.mem_singleton_self _) (worded _)

/-- A filter whose query is blank or has words, of characters that are parts of words in the index
as well, finds exactly the books whose last submissions have what it asks for, each once. Every word
of the query has to begin a word of the texts. -/
theorem search_run (settings : Settings) (threshold : Int) (calls : List Call)
    (compiles : f.Compiles) (indexed : (Query.parse f.query.toList).Indexed)
    (first : fitsColumn f.yearFrom = true) (last : fitsColumn f.yearTo = true) :
    let log := (start settings threshold).run calls
    ∃ books : List Book, log.session.Lists f books ∧ (books.map (·.id)).Nodup ∧
      (∀ id, id ∈ books.map (·.id) ↔
        ∃ s, lastWith? id log.committed = some s ∧ f.Wants Index.Begins s) ∧
      ∀ book ∈ books, ∃ s, lastWith? book.id log.committed = some s ∧ book.Shows s := by
  intro log
  have faithful : log.Faithful := faithful_run settings threshold calls
  have represents := faithful.represents
  have worded : f.Worded := compiles.worded
  refine ⟨log.session.content.results f, faithful.lists (allowed_of_worded worded first last),
    represents.results_nodup f, fun id => ?_, fun book mem => represents.results_show mem⟩
  simp only [represents.mem_results_ids, Filter.selects_iff_wants worded,
    Filter.wants_iff_of_indexed indexed]

/-- What is committed when one book has been stored in a new library. -/
def shelved (s : Submission) : List Call :=
  [.insert {} "2024-01-01T00:00:00" defaultInterval [s]]

/-- A word of the title begins with what is asked for, and the year is late enough. -/
theorem tale_found :
    let s : Submission := { id := "b", title := some "Old tale", year := some 1990 }
    let f : Filter := { query := "title:tal", yearFrom := 1985 }
    let log := (start { journal := .memory } defaultThreshold).run (shelved s)
    f.Compiles ∧ (Query.parse f.query.toList).Indexed ∧ fitsColumn f.yearFrom = true ∧
      fitsColumn f.yearTo = true ∧ ∃ books, log.session.Lists f books ∧ "b" ∈ books.map (·.id) := by
  intro s f log
  have compiles : f.Compiles := .inr (by decide +kernel)
  have indexed : (Query.parse f.query.toList).Indexed := by
    have letters : ∀ column, ((Query.parse f.query.toList).terms column).all
        (·.all Index.isWordPart) = true := fun column => by cases column <;> decide +kernel
    exact ⟨by decide +kernel,
      fun column w mem => List.all_eq_true.1 (List.all_eq_true.1 (letters column) w mem)⟩
  have first : fitsColumn f.yearFrom = true := by decide
  have last : fitsColumn f.yearTo = true := by decide
  obtain ⟨books, lists, -, wanted, -⟩ :=
    search_run { journal := .memory } defaultThreshold (shelved s) compiles indexed first last
  have stored : lastWith? "b" log.committed = some s := by decide +kernel
  have met : Index.meets (Query.parse f.query.toList).clauses s.texts.words = true := by
    decide +kernel
  have found := (Query.meets_clauses_iff (Query.parse_cut _)).1 met
  have wants : f.Wants Index.Begins s :=
    { query := (Query.found_iff_of_indexed (Query.parse_cut _) indexed).1 found
      authors := nofun
      series := nofun
      genres := nofun
      languages := nofun
      formats := nofun
      yearFrom := fun _ => ⟨1990, rfl, by decide⟩
      yearTo := nofun }
  exact ⟨compiles, indexed, first, last, books, lists, (wanted "b").2 ⟨s, stored, wants⟩⟩

/-- A filter finds what all of its parts find, but where the text of a query without words is
combined with authors, one of these authors has to do for the text as well. -/
theorem matched_run (settings : Settings) (threshold : Int) (calls : List Call) (f : Filter) :
    let log := (start settings threshold).run calls
    log.session.matched f = (⋂ part, log.session.matched (f.only part)) ∩
        {id | ∀ text, f.Shares text → ∃ s, lastWith? id log.committed = some s ∧
          ∃ name ∈ f.authors, s.HasAuthor name ∧
            (Criterion.containing text).meets s (some name) = true} ∧
      (f.Allowed → log.session.Lists f (log.session.library.results f)) := by
  intro log
  have faithful : log.Faithful := faithful_run settings threshold calls
  refine ⟨?_, fun allowed => ?_⟩
  · -- the engine takes a filter exactly if it takes all of its parts
    ext id
    rw [Set.mem_inter_iff, Set.mem_iInter, Set.mem_ofPred_eq, faithful.mem_matched]
    simp only [faithful.mem_matched]
    constructor
    · rintro ⟨allowed, s, last, selects⟩
      obtain ⟨parts, joint⟩ := Filter.selects_iff_parts.1 selects
      refine ⟨fun part => ⟨Filter.forall_criteria_iff_parts.1 allowed part, s, last, parts part⟩,
        ?_⟩
      exact fun text shares => ⟨s, last, joint text shares⟩
    · rintro ⟨parts, joint⟩
      obtain ⟨-, s, last, -⟩ := parts .query
      refine ⟨Filter.forall_criteria_iff_parts.2 fun part => (parts part).1, s, last, ?_⟩
      refine Filter.selects_iff_parts.2 ⟨fun part => ?_, fun text shares => ?_⟩
      · obtain ⟨-, s', last', selects⟩ := parts part
        cases last.symm.trans last'
        exact selects
      · obtain ⟨s', last', joint⟩ := joint text shares
        cases last.symm.trans last'
        exact joint
  · rw [faithful.library_eq]
    exact faithful.lists allowed

/-- Each part finds a book by two authors, one with a question mark in the name and one who is asked
for, but the filter does not: no author is both. -/
theorem question_mark_lost :
    let s : Submission :=
      { id := "b", title := some "T", authors := some [some "Quo?", some "Vadis"] }
    let f : Filter := { query := "?", authors := ["Vadis"] }
    let log := (start { journal := .memory } defaultThreshold).run (shelved s)
    (∀ part, "b" ∈ log.session.matched (f.only part)) ∧ "b" ∉ log.session.matched f := by
  intro s f log
  have faithful : log.Faithful := faithful_run _ _ _
  have stored : lastWith? "b" log.committed = some s := by decide +kernel
  have found : ∀ (g : Filter) name, s.HasAuthor name → g.Allowed →
      (∀ c ∈ g.criteria, c.meets s (some name) = true) → "b" ∈ log.session.matched g :=
    fun g name has allowed met => faithful.mem_matched.2 ⟨allowed, s, stored, some name, has, met⟩
  have quo : s.HasAuthor "Quo?" := ⟨by decide, by decide⟩
  have vadis : s.HasAuthor "Vadis" := ⟨by decide, by decide⟩
  refine ⟨fun part => ?_, fun both => ?_⟩
  · cases part with
    | query => exact found _ "Quo?" quo (by decide +kernel) (by decide +kernel)
    | _ => exact found _ "Vadis" vadis (by decide +kernel) (by decide +kernel)
  · rw [(matched_run { journal := .memory } defaultThreshold (shelved s) f).1] at both
    obtain ⟨s', last', name, listed, -, contains⟩ := both.2 ['?'] ⟨by decide, by decide +kernel⟩
    cases stored.symm.trans last'
    cases List.mem_singleton.1 listed
    revert contains
    decide +kernel

end Log

end BookCatalog
