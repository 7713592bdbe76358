import BookCatalog.Proofs.Index.Words
import BookCatalog.Proofs.Search.Results

/-!
# Which books a filter selects

In a library that represents a ledger, whether a filter selects a book depends on the last
submission with its id alone. The central notions:

* `Criterion.meets`: a condition holds of a submission, if one of its authors is looked at.
* `Filter.Selects`: all conditions of a filter hold of a submission with one and the same author.
* `Filter.Wants`: what a filter asks of a submission, part by part. It is the same unless the query
  has no words and is looked for as it stands (`Filter.selects_iff_wants`).
* `Library.Represents.mem_results_ids`: the books of a result are those whose last submissions are
  selected.
-/

namespace BookCatalog

/-! ## Conditions of a submission -/

namespace Submission

/-- The author that a search may look at, none if the submission names none. -/
def Credits (s : Submission) : Option String → Prop
  | some name => s.HasAuthor name
  | none => ∀ name, ¬ s.HasAuthor name

/-- The value of a column of names, if one of the authors is looked at. An empty series or genre is
none. -/
def name? (s : Submission) (author : Option String) : NameColumn → Option String
  | .author => author
  | .series => s.series.filter (· ≠ "")
  | .genre => s.genre.filter (· ≠ "")
  | .language => s.language
  | .format => s.format

/-- There is always an author to look at, or none. -/
lemma exists_credits (s : Submission) : ∃ author, s.Credits author := by
  by_cases named : ∃ name, s.HasAuthor name
  · obtain ⟨name, has⟩ := named
    exact ⟨some name, has⟩
  · exact ⟨none, not_exists.1 named⟩

end Submission

/-- A condition holds of a submission, if one of its authors is looked at. -/
def Criterion.meets (s : Submission) (author : Option String) : Criterion → Bool
  | .indexed clauses => Index.meets clauses s.texts.words
  | .containing text =>
    [s.title, s.annotation, author, s.name? author .series].any (fitsText (containsPattern text))
  | .named column names => (s.name? author column).any names.contains
  | .yearFrom year => s.year.any (year ≤ ·)
  | .yearTo year => s.year.any (· ≤ year)

/-- All conditions of a filter hold of a submission with one and the same author. -/
def Filter.Selects (f : Filter) (s : Submission) : Prop :=
  ∃ author, s.Credits author ∧ ∀ c ∈ f.criteria, c.meets s author = true

variable {s : Submission} {c : Criterion} {f : Filter}

/-- It makes no difference which author is looked at by a condition that looks at none. -/
lemma Criterion.meets_congr (blind : c.usesAuthors = false) (author author' : Option String) :
    c.meets s author = c.meets s author' := by
  cases c with
  | indexed => rfl
  | containing => cases blind
  | named column names =>
    cases column with
    | author => cases blind
    | series => rfl
    | genre => rfl
    | language => rfl
    | format => rfl
  | yearFrom => rfl
  | yearTo => rfl

/-- Names restrict a search if there are any. -/
lemma forall_nameCriteria {holds : Criterion → Prop} {column : NameColumn} {names : List String} :
    (∀ c ∈ nameCriteria column names, holds c) ↔ (names ≠ [] → holds (.named column names)) := by
  rw [nameCriteria]
  split
  case isTrue none => simp [List.isEmpty_iff.1 none]
  case isFalse some => simp [List.isEmpty_iff.not.1 some]

/-- A year restricts a search if it is positive. -/
lemma forall_yearCriteria {holds : Criterion → Prop} {year : Int} :
    (∀ c' ∈ (if 0 < year then [c] else []), holds c') ↔ (0 < year → holds c) := by
  split <;> simp [*]

/-- The conditions of a filter, one for each of its parts. -/
lemma Filter.forall_criteria {holds : Criterion → Prop} :
    (∀ c ∈ f.criteria, holds c) ↔
      (∀ c ∈ queryCriteria f.query, holds c) ∧
      (f.authors ≠ [] → holds (.named .author f.authors)) ∧
      (f.series ≠ [] → holds (.named .series f.series)) ∧
      (f.genres ≠ [] → holds (.named .genre f.genres)) ∧
      (f.languages ≠ [] → holds (.named .language f.languages)) ∧
      (f.formats ≠ [] → holds (.named .format f.formats)) ∧
      (0 < f.yearFrom → holds (.yearFrom f.yearFrom)) ∧
      (0 < f.yearTo → holds (.yearTo f.yearTo)) := by
  simp only [Filter.criteria, List.forall_mem_append, forall_nameCriteria, forall_yearCriteria,
    and_assoc]

/-! ## Wanted submissions -/

/-- What a filter asks of a submission: that the words of its query are found in the texts, that one
of the given names is there, and that the year is in the given bounds. `finds` says when a word is
found. -/
structure Filter.Wants (finds : List Char → String → Prop) (f : Filter)
    (s : Submission) : Prop where
  query : (Query.parse f.query.toList).Found finds s.texts
  authors : f.authors ≠ [] → ∃ name ∈ f.authors, s.HasAuthor name
  series : f.series ≠ [] → ∃ name ∈ f.series, name ≠ "" ∧ s.series = some name
  genres : f.genres ≠ [] → ∃ name ∈ f.genres, name ≠ "" ∧ s.genre = some name
  languages : f.languages ≠ [] → ∃ name ∈ f.languages, s.language = some name
  formats : f.formats ≠ [] → ∃ name ∈ f.formats, s.format = some name
  yearFrom : 0 < f.yearFrom → ∃ year, s.year = some year ∧ f.yearFrom ≤ year
  yearTo : 0 < f.yearTo → ∃ year, s.year = some year ∧ year ≤ f.yearTo

/-- A query that is blank or has words. -/
def Filter.Compiles (f : Filter) : Prop :=
  f.query.toList.all Text.isBlank = true ∨ (Query.parse f.query.toList).clauses ≠ []

/-- The query is not looked for as it stands. -/
def Filter.Worded (f : Filter) : Prop :=
  ∀ text, .containing text ∉ queryCriteria f.query

/-- A query asks for nothing, for its words, or for itself as it stands if it has none. -/
lemma queryCriteria_cases (text : String) :
    queryCriteria text = [] ∧ (Query.parse text.toList).clauses = [] ∨
      (Query.parse text.toList).clauses ≠ [] ∧
        queryCriteria text = [.indexed (Query.parse text.toList).clauses] ∨
      (Query.parse text.toList).clauses = [] ∧ (Query.parse text.toList).fallback ≠ [] ∧
        queryCriteria text = [.containing (Query.parse text.toList).fallback] := by
  rw [queryCriteria]
  split
  case isTrue blank =>
    rw [Query.parse, if_pos blank]
    exact .inl ⟨rfl, rfl⟩
  case isFalse =>
    dsimp only
    split
    case isTrue some => exact .inr (.inl ⟨by simpa using some, rfl⟩)
    case isFalse none =>
      have unworded : (Query.parse text.toList).clauses = [] := by simpa using none
      split
      case isTrue some => exact .inr (.inr ⟨unworded, by simpa using some, rfl⟩)
      case isFalse => exact .inl ⟨rfl, unworded⟩

/-- A query that is blank or has words is not looked for as it stands. -/
lemma Filter.Compiles.worded (compiles : f.Compiles) : f.Worded := by
  intro text listed
  rcases compiles with blank | words
  · rw [queryCriteria, if_pos blank] at listed
    cases listed
  · rcases queryCriteria_cases f.query with ⟨-, none⟩ | ⟨-, indexed⟩ | ⟨none, -, -⟩
    · exact words none
    · rw [indexed] at listed
      cases List.mem_singleton.1 listed
    · exact words none

/-- The condition of a query holds of a submission if its words are found there. -/
lemma forall_queryCriteria (worded : f.Worded) {author : Option String} :
    (∀ c ∈ queryCriteria f.query, c.meets s author = true) ↔
      (Query.parse f.query.toList).Found Index.Finds s.texts := by
  have found : Index.meets (Query.parse f.query.toList).clauses s.texts.words = true ↔ _ :=
    Query.meets_clauses_iff (Query.parse_cut f.query.toList)
  rw [← found]
  rcases queryCriteria_cases f.query with ⟨none, unworded⟩ | ⟨-, indexed⟩ | ⟨-, -, contains⟩
  · rw [none, unworded]
    exact iff_of_true nofun rfl
  · rw [indexed, List.forall_mem_singleton]
    rfl
  · exact absurd (contains ▸ List.mem_singleton_self _) (worded _)

/-- A value is among some names if it is one of them. -/
lemma any_contains_iff {name : Option String} {names : List String} :
    name.any names.contains = true ↔ ∃ n ∈ names, name = some n := by
  cases name <;> simp

/-- A name that is not empty is kept. -/
lemma filter_ne_empty_iff {name : Option String} {n : String} :
    name.filter (· ≠ "") = some n ↔ n ≠ "" ∧ name = some n := by
  cases name with
  | none => simp
  | some n' =>
    rw [Option.filter_some]
    by_cases e : n' = ""
    · subst e
      simp [eq_comm]
    · simp only [ne_eq, e, not_false_eq_true, decide_true, if_true, Option.some.injEq]
      exact ⟨fun same => ⟨same ▸ e, same⟩, fun both => both.2⟩

/-- A filter whose query is not looked for as it stands selects exactly what it asks for. -/
theorem Filter.selects_iff_wants (worded : f.Worded) : f.Selects s ↔ f.Wants Index.Finds s := by
  -- only the condition on the authors looks at the author, all others ask the same of the
  -- submission
  have met : ∀ author, (∀ c ∈ f.criteria, c.meets s author = true) ↔
      (f.authors ≠ [] → ∃ name ∈ f.authors, author = some name) ∧
        ({ f with authors := [] } : Filter).Wants Index.Finds s := by
    intro author
    rw [Filter.forall_criteria, forall_queryCriteria worded]
    simp only [Criterion.meets, Submission.name?, any_contains_iff, filter_ne_empty_iff]
    simp only [Option.any_eq_true, decide_eq_true_eq]
    constructor
    · rintro ⟨query, authors, series, genres, languages, formats, yearFrom, yearTo⟩
      exact ⟨authors, query, nofun, series, genres, languages, formats, yearFrom, yearTo⟩
    · rintro ⟨authors, query, -, series, genres, languages, formats, yearFrom, yearTo⟩
      exact ⟨query, authors, series, genres, languages, formats, yearFrom, yearTo⟩
  simp only [Filter.Selects, met]
  constructor
  · rintro ⟨author, credited, named, wants⟩
    refine { wants with authors := fun given => ?_ }
    obtain ⟨name, given, rfl⟩ := named given
    exact ⟨name, given, credited⟩
  · intro wants
    have others : ({ f with authors := [] } : Filter).Wants Index.Finds s :=
      { wants with authors := nofun }
    by_cases free : f.authors = []
    · obtain ⟨author, credited⟩ := s.exists_credits
      exact ⟨author, credited, fun given => absurd free given, others⟩
    · obtain ⟨name, given, has⟩ := wants.authors free
      exact ⟨some name, has, fun _ => ⟨name, given, rfl⟩, others⟩

/-- Where the words of a query are words of the index as well, they are found where they begin
words. -/
lemma Filter.wants_iff_of_indexed (indexed : (Query.parse f.query.toList).Indexed) :
    f.Wants Index.Finds s ↔ f.Wants Index.Begins s := by
  have found := Query.found_iff_of_indexed (t := s.texts) (Query.parse_cut f.query.toList) indexed
  exact ⟨fun wants => { wants with query := found.1 wants.query },
    fun wants => { wants with query := found.2 wants.query }⟩

/-! ## Rows of a submission -/

namespace Library

variable {lib : Library} {ledger : List Submission} {b : StoredBook} {p : Plan} {id : String}

/-- A condition holds of a joined row of a submission exactly if it holds of the submission with the
author of the row. -/
lemma RowOf.holds (row : lib.RowOf s b) (sound : lib.NamesSound) {hit : Option Hit}
    (indexed : c.usesIndex = true → ∃ h, hit = some h ∧ h.words = s.texts.words)
    (author : Option Named) :
    c.holds ⟨b, nameOf? lib.series b.seriesId, nameOf? lib.genres b.genreId, hit, author⟩ =
      c.meets s (author.map Named.name) := by
  obtain ⟨seriesId, genreId, now, stored, series, genre⟩ := row
  have series := series.names (sound .series)
  have genre := genre.names (sound .genres)
  obtain ⟨title, titled, rfl⟩ := Option.map_eq_some_iff.1 stored
  cases c with
  | indexed clauses =>
    obtain ⟨h, rfl, words⟩ := indexed rfl
    rw [Criterion.holds, Option.any_some, words]
    rfl
  | containing text =>
    rw [Criterion.holds, Joined.texts]
    simp only [series, ← titled]
    rfl
  | named column names =>
    rw [Criterion.holds, Criterion.meets]
    cases column with
    | author => rfl
    | series => exact congrArg (Option.any names.contains) series
    | genre => exact congrArg (Option.any names.contains) genre
    | language => rfl
    | format => rfl
  | yearFrom => rfl
  | yearTo => rfl

/-- The authors that a search joins a book with are those of its submission. -/
lemma Represents.hasAuthor_iff_joined (rep : lib.Represents ledger)
    (last : lastWith? id ledger = some s) (name : String) :
    s.HasAuthor name ↔
      ∃ a ∈ (lib.links.filter (·.bookId = id)).filterMap fun l => lib.authors.byId? l.authorId,
        a.name = name := by
  rw [rep.hasAuthor_iff last]
  simp only [List.mem_filterMap, List.mem_filter, decide_eq_true_eq]
  constructor
  · rintro ⟨authorId, link, row⟩
    exact ⟨_, ⟨_, ⟨link, rfl⟩, (rep.sound .authors).byId?_of_mem row⟩, rfl⟩
  · rintro ⟨a, ⟨⟨_, authorId⟩, ⟨link, rfl⟩, found⟩, rfl⟩
    have row : a ∈ lib.authors.rows := List.mem_of_find?_eq_some found
    have own : a.id = authorId := by simpa using List.find?_some found
    cases own
    exact ⟨a.id, link, row⟩

/-- A search joins a book with each of the authors of its submission. -/
lemma Represents.exists_author (rep : lib.Represents ledger) (last : lastWith? id ledger = some s)
    (holds : Option String → Prop) :
    (∃ author ∈ orNone ((lib.links.filter (·.bookId = id)).filterMap fun l =>
        lib.authors.byId? l.authorId), holds (author.map Named.name)) ↔
      ∃ author, s.Credits author ∧ holds author := by
  have names := rep.hasAuthor_iff_joined last
  generalize (lib.links.filter (·.bookId = id)).filterMap
    (fun l => lib.authors.byId? l.authorId) = authors at names ⊢
  rw [orNone]
  split
  case isTrue empty =>
    have nobody : ∀ name, ¬ s.HasAuthor name := by
      intro name has
      obtain ⟨a, mem, -⟩ := (names name).1 has
      rw [List.isEmpty_iff.1 empty] at mem
      cases mem
    constructor
    · rintro ⟨author, mem, held⟩
      cases List.mem_singleton.1 mem
      exact ⟨none, nobody, held⟩
    · rintro ⟨author, credited, held⟩
      cases author with
      | none => exact ⟨none, List.mem_singleton_self _, held⟩
      | some name => exact absurd credited (nobody name)
  case isFalse named =>
    constructor
    · rintro ⟨author, joined, held⟩
      obtain ⟨a, mem, rfl⟩ := List.mem_map.1 joined
      exact ⟨a.name, (names a.name).2 ⟨a, mem, rfl⟩, held⟩
    · rintro ⟨author, credited, held⟩
      cases author with
      | none =>
        obtain ⟨a, mem⟩ := List.exists_mem_of_ne_nil authors (by simpa using named)
        exact absurd ((names a.name).2 ⟨a, mem, rfl⟩) (credited a.name)
      | some name =>
        obtain ⟨a, mem, rfl⟩ := (names name).1 credited
        exact ⟨a, List.mem_map.2 ⟨a, mem, rfl⟩, held⟩

/-- A search that looks at the index joins a book with the words of its submission. -/
lemma Represents.hits (rep : lib.Represents ledger) (mem : b ∈ lib.books)
    (last : lastWith? b.id ledger = some s) (uses : p.usesIndex = true) :
    (∃ h ∈ lib.hits p, h.row.bookId = b.id) ∧
      ∀ h ∈ lib.hits p, h.row.bookId = b.id → h.words = s.texts.words := by
  have rows := lib.hits_rows uses
  constructor
  · have indexed : b.id ∈ lib.index.map (·.bookId) := rep.same_ids ▸ List.mem_map_of_mem mem
    obtain ⟨row, mem, same⟩ := List.mem_map.1 indexed
    have listed : (row, row.texts.words) ∈ (lib.hits p).map fun h => (h.row, h.words) := by
      rw [rows]
      exact List.mem_map.2 ⟨row, mem, rfl⟩
    obtain ⟨h, mem, e⟩ := List.mem_map.1 listed
    have own : h.row = row := congrArg Prod.fst e
    exact ⟨h, mem, own ▸ same⟩
  · intro h mem same
    have listed : (h.row, h.words) ∈ lib.index.map fun row => (row, row.texts.words) := by
      rw [← rows]
      exact List.mem_map.2 ⟨h, mem, rfl⟩
    obtain ⟨row, mem, e⟩ := List.mem_map.1 listed
    have own : row = h.row := congrArg Prod.fst e
    have words : row.texts.words = h.words := congrArg Prod.snd e
    obtain ⟨s', last', texts⟩ := rep.row row mem
    rw [own, same, last] at last'
    cases last'
    rw [← words, texts]

/-- The index rows that a plan joins with a book: there is one, and with the words of its
submission. -/
lemma Represents.joined_hits (rep : lib.Represents ledger) (mem : b ∈ lib.books)
    (last : lastWith? b.id ledger = some s) {hits : List (Option Hit)}
    (joined : hits =
      if p.usesIndex then ((lib.hits p).filter (·.row.bookId = b.id)).map some else [none]) :
    hits ≠ [] ∧
      ∀ hit ∈ hits, p.usesIndex = true → ∃ h, hit = some h ∧ h.words = s.texts.words := by
  split at joined
  case isTrue uses =>
    obtain ⟨⟨h, met, own⟩, words⟩ := rep.hits mem last uses
    subst joined
    refine ⟨List.ne_nil_of_mem (List.mem_map_of_mem (List.mem_filter.2 ⟨met, by simpa using own⟩)),
      fun hit listed _ => ?_⟩
    obtain ⟨h, met, rfl⟩ := List.mem_map.1 listed
    obtain ⟨met, own⟩ := List.mem_filter.1 met
    exact ⟨h, rfl, words h met (by simpa using own)⟩
  case isFalse blind =>
    subst joined
    exact ⟨List.cons_ne_nil _ _, fun _ _ uses => absurd uses blind⟩

/-- The authors that a plan joins with a book: all that its submission names, if the plan looks at
them. -/
lemma Represents.joined_authors (rep : lib.Represents ledger) (last : lastWith? id ledger = some s)
    {cs : List Criterion} (asked : cs ⊆ f.criteria) {authors : List (Option Named)}
    (joined : authors =
      if f.plan.usesAuthors then
        orNone ((lib.links.filter (·.bookId = id)).filterMap fun l => lib.authors.byId? l.authorId)
      else [none]) :
    (∃ author ∈ authors, ∀ c ∈ cs, c.meets s (author.map Named.name) = true) ↔
      ∃ author, s.Credits author ∧ ∀ c ∈ cs, c.meets s author = true := by
  split at joined
  case isTrue =>
    subst joined
    exact rep.exists_author last fun author => ∀ c ∈ cs, c.meets s author = true
  case isFalse blind =>
    subst joined
    have same : ∀ author author', (∀ c ∈ cs, c.meets s author = true) →
        ∀ c ∈ cs, c.meets s author' = true := by
      intro author author' met c listed
      have unseen : c.usesAuthors = false := by
        simp only [Plan.usesAuthors, Bool.not_eq_true, List.any_eq_false] at blind
        simpa using blind c (asked listed)
      exact (Criterion.meets_congr unseen author' author).trans (met c listed)
    obtain ⟨author, credited⟩ := s.exists_credits
    constructor
    · rintro ⟨_, _, met⟩
      exact ⟨author, credited, same _ _ met⟩
    · rintro ⟨_, _, met⟩
      exact ⟨none, List.mem_singleton_self _, same _ _ met⟩

/-- Some of the conditions of a filter hold of a row of a book exactly if they hold of the
submission that the book shows, with one and the same author. -/
theorem Represents.exists_joined (rep : lib.Represents ledger) (mem : b ∈ lib.books)
    (last : lastWith? b.id ledger = some s) {cs : List Criterion} (asked : cs ⊆ f.criteria) :
    (∃ j ∈ lib.joined f.plan (lib.hits f.plan) b, ∀ c ∈ cs, c.holds j = true) ↔
      ∃ author, s.Credits author ∧ ∀ c ∈ cs, c.meets s author = true := by
  obtain ⟨s', last', row⟩ := rep.book b mem
  cases last.symm.trans last'
  obtain ⟨joins, words⟩ := rep.joined_hits (p := f.plan) mem last rfl
  obtain ⟨hit, met⟩ := List.exists_mem_of_ne_nil _ joins
  -- the conditions hold of a joined row as of the submission with the author of the row
  have held : ∀ hit author,
      (f.plan.usesIndex = true → ∃ h, hit = some h ∧ h.words = s.texts.words) →
      ((∀ c ∈ cs, c.holds
        ⟨b, nameOf? lib.series b.seriesId, nameOf? lib.genres b.genreId, hit, author⟩ = true) ↔
        ∀ c ∈ cs, c.meets s (author.map Named.name) = true) := by
    intro hit author words
    refine forall₂_congr fun c listed => ?_
    rw [row.holds rep.sound fun uses => words (List.any_eq_true.2 ⟨c, asked listed, uses⟩)]
  rw [← rep.joined_authors last asked rfl]
  simp only [joined, List.mem_flatMap, List.mem_map]
  constructor
  · rintro ⟨_, ⟨hit, met, author, listed, rfl⟩, holds⟩
    exact ⟨author, listed, (held hit author (words hit met)).1 holds⟩
  · rintro ⟨author, listed, holds⟩
    exact ⟨_, ⟨hit, met, author, listed, rfl⟩, (held hit author (words hit met)).2 holds⟩

/-- A filter selects a book exactly if it selects the submission that the book shows. -/
theorem Represents.selects_iff (rep : lib.Represents ledger) (mem : b ∈ lib.books)
    (last : lastWith? b.id ledger = some s) : lib.selects f.plan b = true ↔ f.Selects s := by
  rw [Filter.Selects, ← rep.exists_joined mem last (List.Subset.refl _), selects, List.any_eq_true]
  simp only [Plan.accepts, List.all_eq_true]
  rfl

/-! ## The result -/

/-- Where the tables represent a ledger, nothing stands in them twice. -/
lemma Represents.tidy (rep : lib.Represents ledger) : lib.Tidy :=
  ⟨rep.nodup, rep.same_ids ▸ rep.nodup, rep.sound .authors, rep.linked⟩

/-- The ids of a result are those of its rows. -/
lemma results_ids (lib : Library) (f : Filter) :
    (lib.results f).map (·.id) = (lib.found f.plan).map (·.book.id) := by
  rw [results, List.map_map]
  rfl

/-- No book is there twice in a result. -/
lemma Represents.results_nodup (rep : lib.Represents ledger) (f : Filter) :
    ((lib.results f).map (·.id)).Nodup := by
  rw [results_ids]
  exact found_ids_nodup rep.tidy.single rep.nodup

/-- The result holds the books whose last submissions the filter selects. -/
theorem Represents.mem_results_ids (rep : lib.Represents ledger) :
    id ∈ (lib.results f).map (·.id) ↔ ∃ s, lastWith? id ledger = some s ∧ f.Selects s := by
  have books := (found_books_perm (p := f.plan) rep.tidy.single).map StoredBook.id
  rw [List.map_map] at books
  rw [results_ids]
  refine books.mem_iff.trans ?_
  rw [List.mem_map]
  constructor
  · rintro ⟨b, selected, rfl⟩
    obtain ⟨mem, selected⟩ := List.mem_filter.1 selected
    obtain ⟨s, last, -⟩ := rep.book b mem
    exact ⟨s, last, (rep.selects_iff mem last).1 selected⟩
  · rintro ⟨s, last, selected⟩
    obtain ⟨b, mem, rfl⟩ := rep.exists_book id s last
    exact ⟨b, List.mem_filter.2 ⟨mem, (rep.selects_iff mem last).2 selected⟩, rfl⟩

/-- A book of the result is that of a row, with its own authors. -/
lemma exists_of_mem_results {book : Book} (mem : book ∈ lib.results f) :
    ∃ b ∈ lib.books, book = { lib.bookOf b with authors := lib.authorsOf b.id } := by
  obtain ⟨j, found, rfl⟩ := List.mem_map.1 mem
  obtain ⟨b, stored, matched⟩ := List.mem_flatMap.1 ((found_perm f.plan).mem_iff.1 found)
  obtain ⟨own, series, genre⟩ := book_of_mem_joined (mem_joined_of_mem_matching matched).1
  refine ⟨b, stored, ?_⟩
  rw [shown, own, series, genre]
  rfl

/-- Every book of the result shows the last submission with its id. -/
lemma Represents.results_show (rep : lib.Represents ledger) {book : Book}
    (mem : book ∈ lib.results f) : ∃ s, lastWith? book.id ledger = some s ∧ book.Shows s := by
  obtain ⟨b, stored, rfl⟩ := exists_of_mem_results mem
  obtain ⟨s, last, row⟩ := rep.book b stored
  exact ⟨s, last, rep.shows last row⟩

/-- Every book of the result is the one that is found by its id. -/
lemma Represents.results_getBook (rep : lib.Represents ledger) (ready : lib.Ready) {book : Book}
    (mem : book ∈ lib.results f) :
    lib.getBook book.id = .ok (some book) ∧ book.authors = lib.authorsOf book.id := by
  obtain ⟨b, stored, rfl⟩ := exists_of_mem_results mem
  exact ⟨rep.getBook_of_mem ready stored, rfl⟩

end Library

end BookCatalog
