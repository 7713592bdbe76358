import BookCatalog.Proofs.Index.Alike
import BookCatalog.Proofs.Query.Written
import BookCatalog.Proofs.Session.Search

/-!
# Finding a book by its own texts

Each text of a book can be asked for as it is, in quotes behind the name of its column
(`Filter.quoting`). `Log.own_text_run` says when this finds the book: if all words that the query is
cut into are found in the column by the index. It does if the text consists of characters that both
treat alike.
-/

namespace BookCatalog

/-- The filter that asks for a quoted text in a column, by one of the spellings of its name. -/
def Filter.quoting (spelling : List Char) (text : String) : Filter :=
  { query := String.ofList (spelling ++ ':' :: Query.quote text.toList) }

/-- One of the texts of a submission: its title, its annotation, its series or the name of an
author. -/
def Submission.HasText (s : Submission) (text : String) : Query.Column → Prop
  | .title => s.title = some text
  | Query.Column.annotation => s.annotation = some text
  | .authors => s.HasAuthor text
  | .series => s.series = some text

variable {s : Submission} {text : String} {column : Query.Column} {spelling : List Char}

/-- The words of a text are among those of its column. -/
lemma Submission.HasText.words_subset (has : s.HasText text column) :
    Index.words text.toList ⊆ Index.words (s.texts.text column).toList := by
  cases column with
  | authors =>
    refine Index.words_subset_intercalate (List.mem_filterMap.2 ⟨some text, has.2, rfl⟩)
  | title =>
    have own : s.title = some text := has
    rw [Submission.texts, Index.Texts.text, own]
    exact List.Subset.refl _
  | annotation =>
    have own : s.annotation = some text := has
    rw [Submission.texts, Index.Texts.text, own]
    exact List.Subset.refl _
  | series =>
    have own : s.series = some text := has
    rw [Submission.texts, Index.Texts.text, own]
    exact List.Subset.refl _

/-- The query is the spelling, a colon and the quoted text. -/
lemma toList_quoting (spelling : List Char) (text : String) :
    (Filter.quoting spelling text).query.toList = spelling ++ ':' :: Query.quote text.toList :=
  String.toList_ofList

/-- The query of a quoted text is not looked for as it stands. -/
lemma quoting_worded (spelled : (spelling, column) ∈ Query.spellings) (text : String) :
    (Filter.quoting spelling text).Worded := by
  obtain ⟨remainder, general, -⟩ := Query.parse_quoted spelled text.toList
  have nothing : (Query.parse (Filter.quoting spelling text).query.toList).fallback = [] := by
    rw [toList_quoting, Query.fallback, remainder, general]
    rfl
  intro pattern listed
  rcases queryCriteria_cases (Filter.quoting spelling text).query with
    ⟨none, -⟩ | ⟨-, indexed⟩ | ⟨-, some, -⟩
  · rw [none] at listed
    cases listed
  · rw [indexed] at listed
    cases List.mem_singleton.1 listed
  · exact some nothing

/-- A quoted text is wanted if its words are found in the column. -/
lemma quoting_wants_iff (spelled : (spelling, column) ∈ Query.spellings) :
    (Filter.quoting spelling text).Wants Index.Finds s ↔
      ∀ w ∈ Query.words text.toList, Index.Finds w (s.texts.text column) := by
  obtain ⟨-, general, terms⟩ := Query.parse_quoted spelled text.toList
  rw [← toList_quoting] at general terms
  constructor
  · intro wants w mem
    exact wants.query.within column w (by rwa [terms, if_pos rfl])
  · intro found
    have query :
        (Query.parse (Filter.quoting spelling text).query.toList).Found Index.Finds s.texts := by
      refine ⟨by simp [general], fun column' w mem => ?_⟩
      rw [terms] at mem
      split at mem
      case isTrue same => exact same ▸ found w mem
      case isFalse => cases mem
    exact ⟨query, nofun, nofun, nofun, nofun, nofun, nofun, nofun⟩

namespace Log

/-- A book is found by one of its own texts, quoted behind the name of its column, exactly if the
index finds all words that the query is cut into in the column. This is so if queries and the index
treat the characters of the text alike. -/
theorem own_text_run (settings : Settings) (threshold : Int) (calls : List Call) {id : String}
    (last : lastWith? id ((start settings threshold).run calls).committed = some s)
    (spelled : (spelling, column) ∈ Query.spellings) (has : s.HasText text column) :
    ∃ books, ((start settings threshold).run calls).session.Lists (.quoting spelling text) books ∧
      (id ∈ books.map (·.id) ↔
        ∀ w ∈ Query.words text.toList, Index.Finds w (s.texts.text column)) ∧
      ((∀ c ∈ text.toList, Index.CutAlike c) → id ∈ books.map (·.id)) := by
  have faithful := faithful_run settings threshold calls
  have worded := quoting_worded spelled text
  have found : id ∈ (((start settings threshold).run calls).session.content.results
      (.quoting spelling text)).map (·.id) ↔
        ∀ w ∈ Query.words text.toList, Index.Finds w (s.texts.text column) := by
    rw [faithful.represents.mem_results_ids]
    simp only [last, Option.some.injEq, exists_eq_left', Filter.selects_iff_wants worded,
      quoting_wants_iff spelled]
  have zero : fitsColumn 0 = true := by decide
  refine ⟨_, faithful.lists (allowed_of_worded worded zero zero), found, fun alike => ?_⟩
  refine found.2 fun w mem => ?_
  -- the word itself is in the index, and so in the column
  obtain ⟨whole, own⟩ := Index.words_alike alike mem
  rw [Index.Finds, whole, Index.occurs_singleton]
  exact ⟨Index.folded w, has.words_subset own, List.prefix_rfl⟩

/-- A combining accent cuts the words of a query, but not those of the index: the title does not
find its book. The name of the author does. -/
theorem accent_lost :
    let s : Submission :=
      { id := "b", title := some "Cafe\u0301s", authors := some [some "Лев Толстой"] }
    let log := (start { journal := .memory } defaultThreshold).run (shelved s)
    (∃ books, log.session.Lists (.quoting "title".toList "Cafe\u0301s") books ∧
      "b" ∉ books.map (·.id)) ∧
    ∃ books, log.session.Lists (.quoting "author".toList "Лев Толстой") books ∧
      "b" ∈ books.map (·.id) := by
  intro s log
  have stored : lastWith? "b" log.committed = some s := by decide +kernel
  constructor
  · have spelled : ("title".toList, Query.Column.title) ∈ Query.spellings := by decide
    have has : s.HasText "Cafe\u0301s" .title := rfl
    obtain ⟨books, lists, found, -⟩ := own_text_run _ _ _ stored spelled has
    refine ⟨books, lists, found.not.2 fun finds => ?_⟩
    have cut : Query.words "Cafe\u0301s".toList = ["cafe".toList, "s".toList] := by decide +kernel
    have lost : ¬ Index.Finds "s".toList "Cafe\u0301s" := by decide +kernel
    have listed : "s".toList ∈ Query.words "Cafe\u0301s".toList :=
      cut ▸ List.mem_cons_of_mem _ (List.mem_singleton_self _)
    exact lost (finds _ listed)
  · have spelled : ("author".toList, Query.Column.authors) ∈ Query.spellings := by decide
    have has : s.HasText "Лев Толстой" .authors := ⟨by decide, by decide⟩
    obtain ⟨books, lists, -, found⟩ := own_text_run _ _ _ stored spelled has
    have alike : ("Лев Толстой".toList.all fun c => decide (Index.CutAlike c)) = true := by
      decide +kernel
    exact ⟨books, lists, found fun c own => of_decide_eq_true (List.all_eq_true.1 alike c own)⟩

end Log

end BookCatalog
