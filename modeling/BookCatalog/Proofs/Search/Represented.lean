import BookCatalog.Proofs.Search.Likeness
import BookCatalog.Proofs.Search.Ordering

/-!
# Libraries that represent the same ledger

What a library shows depends on the last submissions alone, and not on when and in what order they
have come or on the numbers of the names. So two libraries that represent the same ledger give the
same book for every id (`Library.Represents.getBook_unnumbered`) and the same page for every filter
(`Library.Represents.search_unnumbered`), up to times and numbers. The central notions:

* `Book.unnumbered`: a book without its times, and without the numbers of its names.
* `Library.Represents.hits_perm`: the index has the same rows in both, and a row has the same rank
  in whatever order they are.
* `Order.Before.asymm`: no two books have the same place in a result, so that there is one way to
  sort them.
-/

namespace BookCatalog

/-- A name without its number. -/
def Named.unnumbered (r : Named) : Named :=
  { r with id := 0 }

/-- A book without its times, and without the numbers of its names. -/
def Book.unnumbered (b : Book) : Book :=
  { b with
    authors := b.authors.map Named.unnumbered
    series := b.series.map Named.unnumbered
    genre := b.genre.map Named.unnumbered
    createdAt := ""
    updatedAt := "" }

variable {s s' : Submission}

/-! ## Books -/

/-- Names without numbers are the same if the names are. -/
lemma map_unnumbered_eq {r r' : Option Named} (same : r.map Named.name = r'.map Named.name) :
    r.map Named.unnumbered = r'.map Named.unnumbered := by
  have named : ∀ r : Option Named, r.map Named.unnumbered = (r.map Named.name).map (⟨0, ·⟩) := by
    intro r
    cases r <;> rfl
  rw [named, named, same]

/-- What a submission does not decide about the books that show it is not shown without numbers and
times. -/
theorem Book.Shows.unnumbered_eq {book book' : Book} (shows : book.Shows s)
    (shows' : book'.Shows s) :
    book.unnumbered = book'.unnumbered := by
  have names : book.authors.map Named.name = book'.authors.map Named.name :=
    shows.authors_sorted.eq_of_mem_iff shows'.authors_sorted fun name =>
      (shows.authors name).trans (shows'.authors name).symm
  have authors : book.authors.map Named.unnumbered = book'.authors.map Named.unnumbered := by
    have named : ∀ rows : List Named,
        rows.map Named.unnumbered = (rows.map Named.name).map (⟨0, ·⟩) := by
      intro rows
      rw [List.map_map]
      rfl
    rw [named, named, names]
  have title : book.title = book'.title := Option.some.inj (shows.title.trans shows'.title.symm)
  have series := map_unnumbered_eq (shows.series.trans shows'.series.symm)
  have genre := map_unnumbered_eq (shows.genre.trans shows'.genre.symm)
  simp only [Book.unnumbered, authors, title, series, genre, shows.id, shows'.id, shows.seriesNum,
    shows'.seriesNum, shows.year, shows'.year, shows.language, shows'.language, shows.fileSize,
    shows'.fileSize, shows.archivePath, shows'.archivePath, shows.fileNum, shows'.fileNum,
    shows.format, shows'.format, shows.dateAdded, shows'.dateAdded, shows.rating, shows'.rating,
    shows.annotation, shows'.annotation]

/-! ## Ranks -/

/-- Rows are ranked alike in whatever order they are. -/
lemma Index.ranks_perm {rows rows' : List Words} (perm : rows.Perm rows')
    (clauses : List Query.Clause) :
    ∃ score, ranks clauses rows = rows.map score ∧ ranks clauses rows' = rows'.map score := by
  have weights : weighted clauses rows = weighted clauses rows' := by
    simp only [weighted, perm.length_eq, perm.countP_eq]
  have total : rows.foldl (fun total w => total + w.size) 0 =
      rows'.foldl (fun total w => total + w.size) 0 :=
    perm.foldl_eq' (fun _ _ _ _ _ => Nat.add_right_comm _ _ _) 0
  exact ⟨_, rfl, by rw [ranks, ← weights, ← total, ← perm.length_eq]⟩

/-! ## The order of a result -/

/-- Comparing in the other direction gives the opposite. -/
lemma SortKey.compareOf_swap (key : SortKey) (rank : String → Float) (s s' : Submission) :
    key.compareOf rank s' s = (key.compareOf rank s s').swap := by
  cases key with
  | title =>
    rw [compareOf, compareOf, compareMissing_eq, compareMissing_eq]
    exact Std.OrientedCmp.eq_swap
  | year =>
    rw [compareOf, compareOf, compareMissing_eq, compareMissing_eq]
    exact Std.OrientedCmp.eq_swap
  | dateAdded =>
    rw [compareOf, compareOf, compareMissing_eq, compareMissing_eq]
    exact Std.OrientedCmp.eq_swap
  | rank =>
    have swap : Ord.compare (rankPlace (rank s'.id)) (rankPlace (rank s.id)) = _ :=
      Std.OrientedOrd.eq_swap
    exact swap

/-- Of two submissions at most one comes before the other one. -/
lemma Order.Before.asymm {o : Order} {rank : String → Float} (before : o.Before rank s s') :
    ¬ o.Before rank s' s := by
  rw [Order.Before] at before ⊢
  rw [SortKey.compareOf_swap]
  generalize o.key.compareOf rank s s' = order at before ⊢
  cases order with
  | lt =>
    simp only [Ordering.swap, before]
    decide
  | gt =>
    simp only [Ordering.swap, before]
    decide
  | eq => exact before.asymm

/-- An id comes before another one if the last submission with it does. -/
def Order.PlacesIds (o : Order) (rank : String → Float) (ledger : List Submission)
    (id id' : String) : Prop :=
  ∃ s s', lastWith? id ledger = some s ∧ lastWith? id' ledger = some s' ∧ o.Before rank s s'

/-- No id comes before one that comes before it. -/
lemma Order.PlacesIds.asymm {o : Order} {rank : String → Float} {ledger : List Submission}
    {id id' : String}
    (places : o.PlacesIds rank ledger id id') : ¬ o.PlacesIds rank ledger id' id := by
  obtain ⟨s, s', last, last', before⟩ := places
  rintro ⟨r', r, same', same, back⟩
  cases last.symm.trans same
  cases last'.symm.trans same'
  exact before.asymm back

namespace Library

variable {lib lib' : Library} {ledger : List Submission} {f : Filter} {p : Plan} {id : String}

/-- Both libraries give the same book for an id, up to times and numbers. -/
lemma Represents.getBook_unnumbered (rep : lib.Represents ledger) (rep' : lib'.Represents ledger)
    (ready : lib.Ready) (ready' : lib'.Ready) (id : String) :
    (lib.getBook id).map (Option.map Book.unnumbered) =
      (lib'.getBook id).map (Option.map Book.unnumbered) := by
  have found := rep.getBook ready id
  have found' := rep'.getBook ready' id
  cases last : lastWith? id ledger with
  | none =>
    simp only [last] at found found'
    rw [found, found']
  | some s =>
    simp only [last] at found found'
    obtain ⟨book, found, shows⟩ := found
    obtain ⟨book', found', shows'⟩ := found'
    rw [found, found']
    exact congrArg (fun b => Except.ok (some b)) (shows.unnumbered_eq shows')

/-! ## The index -/

/-- The index has exactly the texts of the last submissions. -/
lemma Represents.mem_index (rep : lib.Represents ledger) {row : Index.Row} :
    row ∈ lib.index ↔ ∃ s, lastWith? row.bookId ledger = some s ∧ row.texts = s.texts := by
  constructor
  · exact rep.row row
  · rintro ⟨s, last, texts⟩
    obtain ⟨b, stored, own⟩ := rep.exists_book _ s last
    have listed : row.bookId ∈ lib.index.map (·.bookId) :=
      rep.same_ids ▸ own ▸ List.mem_map_of_mem stored
    obtain ⟨row', mem, same⟩ := List.mem_map.1 listed
    obtain ⟨s', last', texts'⟩ := rep.row row' mem
    rw [same] at last'
    cases last.symm.trans last'
    have eq : row' = row := by
      cases row
      cases row'
      simp_all
    exact eq ▸ mem

/-- Both libraries have the same rows in the index. -/
lemma Represents.index_perm (rep : lib.Represents ledger) (rep' : lib'.Represents ledger) :
    lib.index.Perm lib'.index := by
  refine (List.perm_ext_iff_of_nodup rep.tidy.single.of_map rep'.tidy.single.of_map).2 fun row => ?_
  rw [rep.mem_index, rep'.mem_index]

/-- The same rows of the index have the same ranks, in whatever order they are. -/
lemma hits_perm (perm : lib.index.Perm lib'.index) (p : Plan) :
    (lib.hits p).Perm (lib'.hits p) := by
  have met : ∀ (score : Index.Words → Float) (rows : List Index.Row),
      rows.zip ((rows.map (·.texts.words)).zip ((rows.map (·.texts.words)).map score)) =
        rows.map fun row => (row, row.texts.words, score row.texts.words) := by
    intro score rows
    induction rows with
    | nil => rfl
    | cons row rest ih => simpa using ih
  obtain ⟨score, ranks, ranks'⟩ := Index.ranks_perm (perm.map (·.texts.words)) p.clauses
  rw [hits, hits]
  split
  case isFalse => exact .refl _
  case isTrue =>
    dsimp only
    split
    case isTrue =>
      rw [ranks, ranks', met, met]
      exact (perm.map _).map _
    case isFalse =>
      rw [met, met]
      exact (perm.map _).map _

/-- A book has the same rank in both libraries. -/
lemma Represents.rankOf_eq (rep : lib.Represents ledger)
    (rep' : lib'.Represents ledger) (p : Plan) :
    lib.rankOf p = lib'.rankOf p := by
  have perm := hits_perm (rep.index_perm rep') p
  have single : ((lib.hits p).map (·.row.bookId)).Nodup := by
    by_cases uses : p.usesIndex = true
    · have rows := congrArg (List.map (·.1.bookId)) (lib.hits_rows uses)
      rw [List.map_map, List.map_map] at rows
      exact rows ▸ rep.tidy.single
    · simp [Library.hits, uses]
  funext id
  rw [rankOf, rankOf, find?_perm single perm]

/-! ## The search -/

/-- The ids of a result stand in the order of the last submissions. -/
lemma Represents.results_ids_sorted (rep : lib.Represents ledger) (f : Filter) :
    ((lib.results f).map (·.id)).Pairwise (f.plan.order.PlacesIds (lib.rankOf f.plan) ledger) :=
  List.pairwise_map.2 (rep.results_sorted f)

/-- The same books are found, and in the same order. -/
lemma Represents.results_ids_eq (rep : lib.Represents ledger) (rep' : lib'.Represents ledger)
    (f : Filter) :
    (lib.results f).map (·.id) = (lib'.results f).map (·.id) := by
  have sorted := rep.results_ids_sorted f
  have sorted' := rep'.results_ids_sorted f
  rw [← rep.rankOf_eq rep'] at sorted'
  refine List.Perm.eq_of_pairwise
    (fun _ _ _ _ places back => absurd back places.asymm) sorted sorted' ?_
  refine (List.perm_ext_iff_of_nodup (rep.results_nodup f) (rep'.results_nodup f)).2 fun id => ?_
  rw [rep.mem_results_ids, rep'.mem_results_ids]

/-- The books of a result are those that are found by their ids. -/
lemma Represents.results_unnumbered (rep : lib.Represents ledger) (rep' : lib'.Represents ledger)
    (ready : lib.Ready) (ready' : lib'.Ready) (f : Filter) :
    (lib.results f).map Book.unnumbered = (lib'.results f).map Book.unnumbered := by
  have own : ∀ {lib : Library} (rep : lib.Represents ledger) (ready : lib.Ready),
      ((lib.results f).map (·.id)).map
        (fun id => (lib.getBook id).map (Option.map Book.unnumbered)) =
        ((lib.results f).map Book.unnumbered).map (fun b => .ok (some b)) := by
    intro lib rep ready
    rw [List.map_map, List.map_map]
    refine List.map_congr_left fun b mem => ?_
    rw [Function.comp_apply, (rep.results_getBook ready mem).1]
    rfl
  have injective : Function.Injective fun b : Book =>
    (.ok (some b) : Except Failure (Option Book)) := by
    intro b b' same
    cases same
    rfl
  refine List.map_injective_iff.2 injective ?_
  rw [← own rep ready, ← own rep' ready', rep.results_ids_eq rep']
  exact List.map_congr_left fun id _ => rep.getBook_unnumbered rep' ready ready' id

/-- A row is refused if a pattern is too long and all other conditions hold. -/
lemma refuses_iff {j : Joined} : p.refuses j = true ↔
    p.criteria.any Criterion.isTooComplex = true ∧
      ∀ c ∈ p.criteria.filter (!·.isTooComplex), c.holds j = true := by
  rw [Plan.refuses, Bool.and_eq_true, List.all_eq_true]
  simp [List.mem_filter, or_iff_not_imp_left]

/-- A pattern that is too long is looked at if there is a book whose last submission meets all other
conditions. -/
lemma Represents.any_refuses_iff (rep : lib.Represents ledger) (f : Filter) :
    (lib.candidates f.plan).any (·.any f.plan.refuses) = true ↔
      f.criteria.any Criterion.isTooComplex = true ∧
        ∃ id s, lastWith? id ledger = some s ∧ ∃ author, s.Credits author ∧
          ∀ c ∈ f.criteria.filter (!·.isTooComplex), c.meets s author = true := by
  have others : f.criteria.filter (!·.isTooComplex) ⊆ f.criteria := List.filter_subset_self _
  simp only [candidates, List.any_map, List.any_eq_true, Function.comp_apply, refuses_iff]
  constructor
  · rintro ⟨b, stored, j, joined, complex, holds⟩
    obtain ⟨s, last, -⟩ := rep.book b stored
    exact ⟨complex, b.id, s, last, (rep.exists_joined stored last others).1 ⟨j, joined, holds⟩⟩
  · rintro ⟨complex, id, s, last, met⟩
    obtain ⟨b, stored, rfl⟩ := rep.exists_book id s last
    obtain ⟨j, joined, holds⟩ := (rep.exists_joined stored last others).2 met
    exact ⟨b, stored, j, joined, complex, holds⟩

/-- A plan is refused in both libraries or in none. -/
lemma Represents.needSimple_eq (rep : lib.Represents ledger) (rep' : lib'.Represents ledger)
    (f : Filter) :
    needSimple f.plan (lib.candidates f.plan) = needSimple f.plan (lib'.candidates f.plan) := by
  have same : (lib.candidates f.plan).any (·.any f.plan.refuses) =
      (lib'.candidates f.plan).any (·.any f.plan.refuses) := by
    rw [Bool.eq_iff_iff, rep.any_refuses_iff, rep'.any_refuses_iff]
  simp only [needSimple, Engine.lazy, same]
  rfl

/-- Every search gives the same, whether or not it fails. -/
theorem Represents.search_unnumbered (rep : lib.Represents ledger) (rep' : lib'.Represents ledger)
    (ready : lib.Ready) (ready' : lib'.Ready) (f : Filter) :
    (lib.search f).map (Page.map Book.unnumbered) =
      (lib'.search f).map (Page.map Book.unnumbered) := by
  have books := rep.results_unnumbered rep' ready ready' f
  have total : (lib.found f.plan).length = (lib'.found f.plan).length := by
    simpa [results] using congrArg List.length books
  simp only [search, count, ready.needTables_plan, ready'.needTables_plan, needSimple_page,
    rep.needSimple_eq rep', countP_candidates rep.tidy.single,
    countP_candidates rep'.tidy.single, total, hydrate_pageRows ready rep.tidy,
    hydrate_pageRows ready' rep'.tidy]
  -- what is asked of the arguments and of the patterns is asked of both
  cases needFits f.plan.integers with
  | error e => exact (rfl : Except.error e = .error e)
  | ok =>
    cases needSimple f.plan (lib'.candidates f.plan) with
    | error => rfl
    | ok =>
      cases needFits (f.plan.integers ++ [f.plan.limit, f.plan.offset]) with
      | error => rfl
      | ok =>
        have pages := congrArg (slice f.plan.limit f.plan.offset) books
        rw [← slice_map, ← slice_map] at pages
        exact congrArg (fun items => Except.ok (⟨items, _, _, _⟩ : Page Book)) pages

end Library

end BookCatalog
