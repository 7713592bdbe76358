import BookCatalog.Proofs.Search.Selecting

/-!
# Parts of a filter

A filter is put together from a query, lists of names and bounds of the year. The central notions:

* `Filter.only`: a filter that keeps one part of another one.
* `Filter.Shares`: the text of a query without words and the given authors are looked for in the
  same author.
* `Filter.selects_iff_parts`: a filter selects what its parts select, but where the author is
  shared, one and the same author has to do for both.
-/

namespace BookCatalog

inductive Part where
  | query
  | authors
  | series
  | genres
  | languages
  | formats
  | yearFrom
  | yearTo
  deriving DecidableEq, Repr

/-- The filter that keeps only one part. -/
def Filter.only (f : Filter) : Part → Filter
  | .query => { query := f.query }
  | .authors => { authors := f.authors }
  | .series => { series := f.series }
  | .genres => { genres := f.genres }
  | .languages => { languages := f.languages }
  | .formats => { formats := f.formats }
  | .yearFrom => { yearFrom := f.yearFrom }
  | .yearTo => { yearTo := f.yearTo }

/-- The engine takes the conditions of a filter: no pattern is too long, and all years fit a
column. -/
def Filter.Allowed (f : Filter) : Prop :=
  ∀ c ∈ f.criteria, c.isTooComplex = false ∧ ∀ n ∈ c.integers, fitsColumn n = true

instance (f : Filter) : Decidable f.Allowed :=
  inferInstanceAs (Decidable (∀ c ∈ f.criteria, _))

/-- A text is looked for in the author that is joined, and this has to be one of the given ones. -/
def Filter.Shares (f : Filter) (text : List Char) : Prop :=
  f.authors ≠ [] ∧ .containing text ∈ queryCriteria f.query

namespace Filter

variable {f : Filter} {s : Submission} {part : Part} {author : Option String}

/-- An empty query asks for nothing. -/
lemma queryCriteria_empty : queryCriteria "" = [] := by decide

/-- The conditions of a filter are those of its parts. -/
theorem forall_criteria_iff_parts {holds : Criterion → Prop} :
    (∀ c ∈ f.criteria, holds c) ↔ ∀ part, ∀ c ∈ (f.only part).criteria, holds c := by
  have none : ∀ c ∈ queryCriteria "", holds c := by
    rw [queryCriteria_empty]
    exact nofun
  simp only [forall_criteria]
  constructor
  · rintro ⟨query, authors, series, genres, languages, formats, yearFrom, yearTo⟩ part
    cases part with
    | query => exact ⟨query, nofun, nofun, nofun, nofun, nofun, nofun, nofun⟩
    | authors => exact ⟨none, authors, nofun, nofun, nofun, nofun, nofun, nofun⟩
    | series => exact ⟨none, nofun, series, nofun, nofun, nofun, nofun, nofun⟩
    | genres => exact ⟨none, nofun, nofun, genres, nofun, nofun, nofun, nofun⟩
    | languages => exact ⟨none, nofun, nofun, nofun, languages, nofun, nofun, nofun⟩
    | formats => exact ⟨none, nofun, nofun, nofun, nofun, formats, nofun, nofun⟩
    | yearFrom => exact ⟨none, nofun, nofun, nofun, nofun, nofun, yearFrom, nofun⟩
    | yearTo => exact ⟨none, nofun, nofun, nofun, nofun, nofun, nofun, yearTo⟩
  · intro parts
    exact ⟨(parts .query).1, (parts .authors).2.1, (parts .series).2.2.1, (parts .genres).2.2.2.1,
      (parts .languages).2.2.2.2.1, (parts .formats).2.2.2.2.2.1, (parts .yearFrom).2.2.2.2.2.2.1,
      (parts .yearTo).2.2.2.2.2.2.2⟩

/-! ## One author for all parts -/

/-- A query that is looked for as it stands asks for nothing else. -/
lemma queryCriteria_of_mem {text : List Char} (mem : .containing text ∈ queryCriteria f.query) :
    queryCriteria f.query = [.containing text] := by
  rcases queryCriteria_cases f.query with ⟨none, -⟩ | ⟨-, indexed⟩ | ⟨-, -, contains⟩
  · rw [none] at mem
    cases mem
  · rw [indexed] at mem
    cases List.mem_singleton.1 mem
  · rw [contains] at mem
    cases List.mem_singleton.1 mem
    exact contains

/-- The conditions of a filter that looks at no author hold with every author or with none. -/
lemma Selects.of_blind (selects : f.Selects s) (blind : ∀ c ∈ f.criteria, c.usesAuthors = false)
    (author : Option String) : ∀ c ∈ f.criteria, c.meets s author = true := by
  obtain ⟨author', -, met⟩ := selects
  intro c listed
  rw [Criterion.meets_congr (blind c listed) author author']
  exact met c listed

/-- Only the query and the authors look at an author. -/
lemma blind_only (query : part = .query → ∀ c ∈ queryCriteria f.query, c.usesAuthors = false)
    (authors : part = .authors → f.authors = []) :
    ∀ c ∈ (f.only part).criteria, c.usesAuthors = false := by
  rw [forall_criteria]
  have none : ∀ c ∈ queryCriteria "", c.usesAuthors = false := by
    rw [queryCriteria_empty]
    exact nofun
  cases part with
  | query => exact ⟨query rfl, nofun, nofun, nofun, nofun, nofun, nofun, nofun⟩
  | authors =>
    have free : f.authors = [] := authors rfl
    exact ⟨none, fun given => absurd free given, nofun, nofun, nofun, nofun, nofun, nofun⟩
  | series => exact ⟨none, nofun, fun _ => rfl, nofun, nofun, nofun, nofun, nofun⟩
  | genres => exact ⟨none, nofun, nofun, fun _ => rfl, nofun, nofun, nofun, nofun⟩
  | languages => exact ⟨none, nofun, nofun, nofun, fun _ => rfl, nofun, nofun, nofun⟩
  | formats => exact ⟨none, nofun, nofun, nofun, nofun, fun _ => rfl, nofun, nofun⟩
  | yearFrom => exact ⟨none, nofun, nofun, nofun, nofun, nofun, fun _ => rfl, nofun⟩
  | yearTo => exact ⟨none, nofun, nofun, nofun, nofun, nofun, nofun, fun _ => rfl⟩

/-- Where no author is shared, the query or the list of authors looks at no author. -/
lemma blind_of_not_shares (apart : ∀ text, ¬ f.Shares text) :
    f.authors = [] ∨ ∀ c ∈ queryCriteria f.query, c.usesAuthors = false := by
  refine or_iff_not_imp_left.2 fun given => ?_
  rcases queryCriteria_cases f.query with ⟨none, -⟩ | ⟨-, indexed⟩ | ⟨-, -, contains⟩
  · rw [none]
    exact nofun
  · rw [indexed]
    simp [Criterion.usesAuthors]
  · exact absurd ⟨given, contains ▸ List.mem_singleton_self _⟩ (apart _)

/-- The part of the authors has one condition. -/
lemma criteria_only_authors (given : f.authors ≠ []) :
    (f.only .authors).criteria = [.named .author f.authors] := by
  simp [Filter.criteria, Filter.only, queryCriteria_empty, nameCriteria, given]

/-- The part of the query has its conditions. -/
lemma criteria_only_query : (f.only .query).criteria = queryCriteria f.query := by
  simp [Filter.criteria, Filter.only, nameCriteria]

/-- Where no author is shared, a filter selects what its parts select. -/
lemma selects_of_parts (parts : ∀ part, (f.only part).Selects s) (apart : ∀ text, ¬ f.Shares text) :
    f.Selects s := by
  rcases blind_of_not_shares apart with free | blind
  · -- the author that does for the query does for the other parts, which look at none
    obtain ⟨author, credited, met⟩ := parts .query
    refine ⟨author, credited, forall_criteria_iff_parts.2 fun part => ?_⟩
    by_cases own : part = .query
    · rw [own]
      exact met
    · exact (parts part).of_blind (blind_only (fun same => absurd same own) fun _ => free) author
  · obtain ⟨author, credited, met⟩ := parts .authors
    refine ⟨author, credited, forall_criteria_iff_parts.2 fun part => ?_⟩
    by_cases own : part = .authors
    · rw [own]
      exact met
    · exact (parts part).of_blind (blind_only (fun _ => blind) fun same => absurd same own) author

/-- Where the author is shared, one of the given authors has to do for the text as well. -/
lemma selects_of_shared (parts : ∀ part, (f.only part).Selects s) {text : List Char}
    (shares : f.Shares text) {name : String} (listed : name ∈ f.authors) (has : s.HasAuthor name)
    (contains : (Criterion.containing text).meets s (some name) = true) : f.Selects s := by
  refine ⟨some name, has, forall_criteria_iff_parts.2 fun part => ?_⟩
  by_cases query : part = .query
  · -- the text is all that the query asks for
    rw [query, criteria_only_query, queryCriteria_of_mem shares.2, List.forall_mem_singleton]
    exact contains
  by_cases authors : part = .authors
  · rw [authors, criteria_only_authors shares.1, List.forall_mem_singleton]
    exact any_contains_iff.2 ⟨name, listed, rfl⟩
  · have blind : ∀ c ∈ (f.only part).criteria, c.usesAuthors = false :=
      blind_only (fun same => absurd same query) fun same => absurd same authors
    exact (parts part).of_blind blind (some name)

/-- A filter selects what its parts select, but where an author is shared, one and the same author
has to do for both parts. -/
theorem selects_iff_parts : f.Selects s ↔ (∀ part, (f.only part).Selects s) ∧
    ∀ text, f.Shares text →
      ∃ name ∈ f.authors, s.HasAuthor name ∧
        (Criterion.containing text).meets s (some name) = true := by
  constructor
  · rintro ⟨author, credited, met⟩
    have each := forall_criteria_iff_parts.1 met
    refine ⟨fun part => ⟨author, credited, each part⟩, fun text ⟨given, contains⟩ => ?_⟩
    obtain ⟨query, authors, -⟩ := forall_criteria.1 met
    obtain ⟨name, listed, rfl⟩ := any_contains_iff.1 (authors given)
    exact ⟨name, listed, credited, query _ contains⟩
  · rintro ⟨parts, joint⟩
    by_cases shared : ∃ text, f.Shares text
    · obtain ⟨text, shares⟩ := shared
      obtain ⟨name, listed, has, contains⟩ := joint text shares
      exact selects_of_shared parts shares listed has contains
    · exact selects_of_parts parts (not_exists.1 shared)

end Filter

end BookCatalog
