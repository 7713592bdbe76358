import BookCatalog.Proofs.Query.Appended
import BookCatalog.Proofs.Session.Search

/-!
# Narrowing a search

A word that is put behind the query of a filter narrows the search: after every run of a session
that is the only one to write to its library, the books that are found are among those that were
found without it (`Log.search_narrows`). The central notions:

* `Filter.withWord`: the filter with a word more in its query.
* `Filter.Wants.of_withWord`: a submission that is wanted with the word is wanted without it.
* `Log.Faithful.found_of_worded`: whether a search is refused depends on the years and on the page
  alone.
-/

namespace BookCatalog

/-- A filter with a word put behind its query. -/
def Filter.withWord (f : Filter) (w : String) : Filter :=
  { f with query := f.query ++ " " ++ w }

variable {f : Filter} {w : String} {s : Submission}

/-! ## The filter -/

/-- The word stands behind the query, with a space in between. -/
lemma Filter.toList_withWord (f : Filter) (w : String) :
    (f.withWord w).query.toList = f.query.toList ++ ' ' :: w.toList := by
  simp [Filter.withWord, String.toList_append]

/-- The query with the word asks for what the query asks for, and for the word. -/
lemma Filter.parse_withWord (f : Filter) (alnum : ∀ c ∈ w.toList, Text.isAlnum c = true) :
    (∀ column, (Query.parse (f.withWord w).query.toList).terms column =
      (Query.parse f.query.toList).terms column) ∧
      (Query.parse (f.withWord w).query.toList).general =
        (Query.parse f.query.toList).general ++ Query.words w.toList := by
  rw [Filter.toList_withWord]
  exact Query.parse_append_word alnum

/-- With a word in it, a query is not looked for as it stands. -/
lemma Filter.compiles_withWord (f : Filter) (some : w.toList ≠ [])
    (alnum : ∀ c ∈ w.toList, Text.isAlnum c = true) : (f.withWord w).Compiles := by
  right
  intro unworded
  have general := Query.general_eq_nil unworded
  rw [(f.parse_withWord alnum).2] at general
  exact Query.words_ne_nil some alnum (List.append_eq_nil_iff.1 general).2

/-- A submission that is wanted with the word is wanted without it. -/
lemma Filter.Wants.of_withWord {finds : List Char → String → Prop}
    (wants : (f.withWord w).Wants finds s)
    (alnum : ∀ c ∈ w.toList, Text.isAlnum c = true) : f.Wants finds s := by
  obtain ⟨terms, general⟩ := f.parse_withWord alnum
  obtain ⟨found, authors, series, genres, languages, formats, yearFrom, yearTo⟩ := wants
  refine ⟨⟨fun w mem => ?_, fun column w mem => ?_⟩, authors, series, genres, languages,
    formats, yearFrom, yearTo⟩
  · exact found.general w (general ▸ List.mem_append_left _ mem)
  · exact found.within column w (terms column ▸ mem)

/-- The query of a filter has no integers. -/
lemma integers_queryCriteria (text : String) :
    (queryCriteria text).flatMap Criterion.integers = [] := by
  rcases queryCriteria_cases text with ⟨none, -⟩ | ⟨-, indexed⟩ | ⟨-, -, contains⟩
  · rw [none, List.flatMap_nil]
  · rw [indexed]
    rfl
  · rw [contains]
    rfl

/-- A word binds no integers. -/
lemma Filter.integers_withWord (f : Filter) (w : String) :
    (f.withWord w).plan.integers = f.plan.integers := by
  simp only [Filter.plan, Plan.integers, Filter.criteria, Filter.withWord, List.flatMap_append,
    integers_queryCriteria]
  rfl

/-- The word changes none of the integers of a search. -/
lemma Filter.fits_withWord (f : Filter) (w : String) :
    (∀ n ∈ (f.withWord w).plan.integers ++ [(f.withWord w).plan.limit, (f.withWord w).plan.offset],
        fitsColumn n = true) ↔
      ∀ n ∈ f.plan.integers ++ [f.plan.limit, f.plan.offset], fitsColumn n = true := by
  rw [Filter.integers_withWord]
  exact Iff.rfl

/-- A filter whose query is not looked for as it stands has no pattern. -/
lemma Filter.Worded.simple (worded : f.Worded) : ∀ c ∈ f.criteria, c.isTooComplex = false := by
  refine Filter.forall_criteria.2
    ⟨fun c listed => ?_, fun _ => rfl, fun _ => rfl, fun _ => rfl, fun _ => rfl, fun _ => rfl,
    fun _ => rfl, fun _ => rfl⟩
  cases c with
  | containing text => exact absurd listed (worded text)
  | _ => rfl

/-- The engine takes a filter that is not looked for as it stands if its integers fit. -/
lemma Filter.Worded.allowed_iff (worded : f.Worded) :
    f.Allowed ↔ ∀ n ∈ f.plan.integers, fitsColumn n = true := by
  constructor
  · intro allowed n mem
    obtain ⟨c, listed, own⟩ := List.mem_flatMap.1 mem
    exact (allowed c listed).2 n own
  · intro fits c listed
    exact ⟨worded.simple c listed, fun n own => fits n (List.mem_flatMap.2 ⟨c, listed, own⟩)⟩

/-! ## The search -/

namespace Log

variable {log : Log} {page : Page Book}

/-- A filter whose query is not looked for as it stands is refused only for its integers. -/
lemma Faithful.exists_page (faithful : log.Faithful) (worded : f.Worded)
    (fits : ∀ n ∈ f.plan.integers ++ [f.plan.limit, f.plan.offset], fitsColumn n = true) :
    ∃ page, log.session.search f = .ok page ∧
      page.total = (log.session.content.results f).length := by
  rw [faithful.search_eq]
  exact ⟨_, Library.search_eq faithful.ready faithful.represents.tidy fits
    (Library.needSimple_of_criteria worded.simple _), rfl⟩

/-- If it is not refused, its integers fit, and all books of the result are counted. -/
lemma Faithful.of_search (faithful : log.Faithful) (worded : f.Worded)
    (ok : log.session.search f = .ok page) :
    (∀ n ∈ f.plan.integers ++ [f.plan.limit, f.plan.offset], fitsColumn n = true) ∧
      page.total = (log.session.content.results f).length := by
  have fits := (Library.search_eq_ok (faithful.search_eq f ▸ ok)).1
  obtain ⟨page', ok', total⟩ := faithful.exists_page worded fits
  cases ok.symm.trans ok'
  exact ⟨fits, total⟩

/-- The ids of the books that are found with a word more are among those that were found. -/
lemma Faithful.results_withWord_subset (faithful : log.Faithful) (worded : f.Worded)
    (worded' : (f.withWord w).Worded) (alnum : ∀ c ∈ w.toList, Text.isAlnum c = true) :
    (log.session.content.results (f.withWord w)).map (·.id) ⊆
      (log.session.content.results f).map (·.id) := by
  intro id listed
  obtain ⟨s, last, selects⟩ := faithful.represents.mem_results_ids.1 listed
  have wants := (Filter.selects_iff_wants worded').1 selects
  exact faithful.represents.mem_results_ids.2
    ⟨s, last, (Filter.selects_iff_wants worded).2 (wants.of_withWord alnum)⟩

/-- Behind a query that is blank or has words, a word more narrows the search, whatever else the
query holds. The word is looked for in addition, what is found with it is part of what is found
without it, and no more books are counted. The one search is refused if the other one is. -/
theorem search_narrows (settings : Settings) (threshold : Int) (calls : List Call)
    (compiles : f.Compiles) (some : w.toList ≠ []) (alnum : ∀ c ∈ w.toList, Text.isAlnum c = true) :
    let session := ((start settings threshold).run calls).session
    (∀ column, (Query.parse (f.withWord w).query.toList).terms column =
      (Query.parse f.query.toList).terms column) ∧
    (Query.parse (f.withWord w).query.toList).general =
      (Query.parse f.query.toList).general ++ Query.words w.toList ∧
    session.matched (f.withWord w) ⊆ session.matched f ∧
    (∀ page, session.search f = .ok page →
      ∃ page', session.search (f.withWord w) = .ok page' ∧ page'.total ≤ page.total) ∧
    ∀ page', session.search (f.withWord w) = .ok page' → ∃ page, session.search f = .ok page := by
  intro session
  have faithful : Faithful ((start settings threshold).run calls) :=
    faithful_run settings threshold calls
  have worded : f.Worded := compiles.worded
  have worded' : (f.withWord w).Worded := (f.compiles_withWord some alnum).worded
  have subset := faithful.results_withWord_subset worded worded' alnum
  obtain ⟨terms, general⟩ := f.parse_withWord alnum
  refine ⟨terms, general, fun id => ?_, fun page ok => ?_, fun page' ok' => ?_⟩
  · rw [faithful.mem_matched, faithful.mem_matched, worded.allowed_iff, worded'.allowed_iff,
      Filter.integers_withWord]
    refine And.imp_right ?_
    rw [← faithful.represents.mem_results_ids, ← faithful.represents.mem_results_ids]
    exact fun listed => subset listed
  · obtain ⟨fits, total⟩ := faithful.of_search worded ok
    obtain ⟨page', ok', total'⟩ := faithful.exists_page worded' ((f.fits_withWord w).2 fits)
    have fewer := (List.subperm_of_subset (faithful.represents.results_nodup _) subset).length_le
    rw [List.length_map, List.length_map] at fewer
    exact ⟨page', ok', by rw [total, total']; exact_mod_cast fewer⟩
  · have fits := (faithful.of_search worded' ok').1
    obtain ⟨page, ok, -⟩ := faithful.exists_page worded ((f.fits_withWord w).1 fits)
    exact ⟨page, ok⟩

/-- A quote that is not closed and a name without a value do not swallow the word. -/
theorem tale_found_behind_open_quote :
    let s : Submission := { id := "b", title := some "Old tale by its author" }
    let f : Filter := { query := "title:\"old author:" }
    let session := ((start { journal := .memory } defaultThreshold).run (shelved s)).session
    f.Compiles ∧ "b" ∈ session.matched (f.withWord "tale") ∧ "b" ∈ session.matched f := by
  intro s f session
  have compiles : f.Compiles := .inr (by decide +kernel)
  have alnum : ∀ c ∈ "tale".toList, Text.isAlnum c = true := List.all_eq_true.1 (by decide +kernel)
  obtain ⟨-, -, subset, -⟩ :=
    search_narrows { journal := .memory } defaultThreshold (shelved s) compiles (by decide) alnum
  have faithful : Faithful ((start { journal := .memory } defaultThreshold).run (shelved s)) :=
    faithful_run _ _ _
  have stored :
      lastWith? "b" ((start { journal := .memory } defaultThreshold).run (shelved s)).committed =
      some s := by
    decide +kernel
  have nobody : s.Credits none := by simp [Submission.Credits, Submission.HasAuthor, s]
  have found : "b" ∈ session.matched (f.withWord "tale") :=
    faithful.mem_matched.2 ⟨by decide +kernel, s, stored, none, nobody, by decide +kernel⟩
  exact ⟨compiles, found, subset found⟩

end Log

end BookCatalog
