import BookCatalog.Library.Search
import BookCatalog.Proofs.Library.Showing

/-!
# The result of a search

The pages of a search are parts of one list, the books that its filter selects. The central notions:

* `Library.found`: the selected rows in order, one for each selected book if no book stands in the
  index twice (`Library.found_books_perm`).
* `Library.results`: the books of these rows with their authors.
* `Library.search_eq`: where nothing stands in the tables twice, a search whose integers fit and
  whose pattern is short enough gives a part of the result, and the number of books in all of it.
  `Library.search_ok_ids` says what a search gives where books may stand in the index twice.
-/

namespace BookCatalog

namespace Library

variable {lib : Library} {p : Plan} {f : Filter} {b : StoredBook} {page : Page Book} {j : Joined}

/-- The rows that a plan selects, in order. -/
def found (lib : Library) (p : Plan) : List Joined :=
  ((lib.candidates p).flatMap (matching p)).mergeSort p.order.puts

def shown (lib : Library) (j : Joined) : Book :=
  { j.book.book (j.series.map Named.name) (j.genre.map Named.name) with
    authors := lib.authorsOf j.book.id }

/-- The books that a filter selects, in order and on whatever page. -/
def results (lib : Library) (f : Filter) : List Book :=
  (lib.found f.plan).map lib.shown

/-- Nothing stands twice in the tables: no book, no book in the index, no author, and no author of a
book. -/
structure Tidy (lib : Library) : Prop where
  nodup : (lib.books.map (·.id)).Nodup
  single : (lib.index.map (·.bookId)).Nodup
  sound : lib.authors.Sound
  linked : lib.links.Nodup

/-- A book has a row that meets the conditions of a plan. -/
def selects (lib : Library) (p : Plan) (b : StoredBook) : Bool :=
  (lib.joined p (lib.hits p) b).any p.accepts

/-! ## Conditions of a search -/

/-- An action succeeds if the engine does. -/
lemma during_eq_ok {α : Type} {action : Action} {x : Except EngineError α} {a : α} :
    during action x = .ok a ↔ x = .ok a := by
  cases x <;> simp [during]

/-- Integers are not refused if they all fit. -/
lemma needFits_eq_ok {args : List Int} : needFits args = .ok () ↔
    ∀ n ∈ args, fitsColumn n = true := by
  rw [needFits]
  split <;> simp_all

/-- An engine takes a plan unless it refuses it. -/
lemma needSimple_eq_ok_iff {rows : List (List Joined)} {engine : Engine} {stage : Stage} :
    needSimple p rows engine stage = .ok () ↔ engine.refuses stage p rows = false := by
  rw [needSimple]
  split
  case isTrue refused => simp [refused]
  case isFalse taken => simpa using taken

/-- If patterns are looked at last, a plan is taken if no row exposes a pattern that is too long. -/
lemma needSimple_eq_ok {rows : List (List Joined)} {stage : Stage} :
    needSimple p rows .lazy stage = .ok () ↔ ∀ group ∈ rows, ∀ j ∈ group, p.refuses j = false := by
  rw [needSimple_eq_ok_iff]
  change (rows.any fun group => group.any p.refuses) = false ↔ _
  simp only [List.any_eq_false, Bool.not_eq_true]

/-- If patterns are looked at last, both statements take the same plans. -/
lemma needSimple_page {rows : List (List Joined)} :
    needSimple p rows .lazy .page = needSimple p rows :=
  rfl

/-- What any engine takes is taken if patterns are looked at last. -/
lemma needSimple_lazy {rows : List (List Joined)} {engine : Engine} {stage : Stage}
    (taken : needSimple p rows engine stage = .ok ()) : needSimple p rows = .ok () := by
  rw [needSimple_eq_ok_iff] at taken ⊢
  refine Bool.eq_false_iff.2 fun exposed => ?_
  rw [engine.refuses_of_exposed stage p rows exposed] at taken
  cases taken

/-- Books that are given back have their authors. -/
lemma hydrate_eq_ok {books shown : List Book} (ok : lib.hydrate books = .ok shown) :
    shown = lib.withAuthors books := by
  rw [hydrate] at ok
  split at ok
  case isTrue none =>
    cases List.isEmpty_iff.1 none
    cases ok
    rfl
  case isFalse =>
    obtain ⟨_, _, ok⟩ := bind_eq_ok.1 ok
    cases ok
    rfl

/-! ## Rows of a book -/

/-- A row of a book has the book, and its series and genre. -/
lemma book_of_mem_joined {hits : List Hit} (mem : j ∈ lib.joined p hits b) :
    j.book = b ∧ j.series = nameOf? lib.series b.seriesId ∧
      j.genre = nameOf? lib.genres b.genreId := by
  simp only [joined, List.mem_flatMap, List.mem_map] at mem
  obtain ⟨_, _, _, _, rfl⟩ := mem
  exact ⟨rfl, rfl, rfl⟩

/-- The hits are the rows of the index with their words. -/
lemma hits_rows (lib : Library) (uses : p.usesIndex = true) :
    (lib.hits p).map (fun h => (h.row, h.words)) =
      lib.index.map fun row => (row, row.texts.words) := by
  rw [hits, if_pos uses]
  refine List.ext_getElem ?_ fun i _ _ => ?_
  · split <;> simp [Index.ranks]
  · simp

/-- A book is met as often as it stands in the index, or once without it. -/
lemma length_hits_le :
    ((lib.hits p).filter (·.row.bookId = b.id)).length ≤ (lib.index.map (·.bookId)).count b.id := by
  by_cases uses : p.usesIndex = true
  · have rows : (lib.hits p).map (·.row) = lib.index := by
      have both := congrArg (List.map Prod.fst) (lib.hits_rows uses)
      rw [List.map_map, List.map_map] at both
      exact both.trans (List.map_id _)
    rw [← rows, List.map_map, List.count, List.countP_map, List.countP_eq_length_filter]
    refine le_of_eq ?_
    congr 2
  · simp [hits, uses]

/-- A book is selected at most as often as it stands in the index, or once. -/
lemma length_matching_le :
    (matching p (lib.joined p (lib.hits p) b)).length ≤
      max 1 ((lib.index.map (·.bookId)).count b.id) := by
  rw [matching]
  split
  case isTrue => exact (List.length_take_le _ _).trans (le_max_left _ _)
  case isFalse uses =>
    refine (List.length_filter_le _ _).trans ?_
    simp only [joined, if_neg uses]
    split
    case isTrue =>
      refine le_trans ?_ (le_max_right _ _)
      simpa [Function.comp_def] using length_hits_le (p := p) (b := b)
    case isFalse => simp

/-- A book is selected once at most where it stands in the index once at most. -/
lemma length_matching_le_one (single : (lib.index.map (·.bookId)).Nodup) :
    (matching p (lib.joined p (lib.hits p) b)).length ≤ 1 :=
  length_matching_le.trans (max_le le_rfl (List.nodup_iff_count_le_one.1 single b.id))

/-- A book has no row in the result exactly if none of its rows meets the conditions. -/
lemma matching_eq_nil : matching p (lib.joined p (lib.hits p) b) = [] ↔
    lib.selects p b = false := by
  rw [matching, selects]
  split <;> simp

/-- A row in the result is one of those joined, and it meets the conditions. -/
lemma mem_joined_of_mem_matching {rows : List Joined} (mem : j ∈ matching p rows) :
    j ∈ rows ∧ p.accepts j = true := by
  rw [matching] at mem
  split at mem
  · exact List.mem_filter.1 (List.mem_of_mem_take mem)
  · exact List.mem_filter.1 mem

/-- A selected book has one row in the result and any other book none. -/
lemma matching_books (single : (lib.index.map (·.bookId)).Nodup) :
    (matching p (lib.joined p (lib.hits p) b)).map (·.book) =
      if lib.selects p b then [b] else [] := by
  have short := length_matching_le_one (p := p) (b := b) single
  -- by the number of rows, of which there is at most one
  match eq : matching p (lib.joined p (lib.hits p) b) with
  | [] =>
    rw [matching_eq_nil.1 eq]
    rfl
  | [j] =>
    have some : lib.selects p b = true := by
      rw [← Bool.not_eq_false, ← matching_eq_nil, eq]
      simp
    have mem : j ∈ lib.joined p (lib.hits p) b :=
      (mem_joined_of_mem_matching (eq ▸ List.mem_singleton_self j)).1
    rw [if_pos some, List.map_singleton, (book_of_mem_joined mem).1]
  | _ :: _ :: _ =>
    rw [eq] at short
    simp at short

/-! ## All rows -/

/-- The result has the selected rows of all books, in another order. -/
lemma found_perm (p : Plan) :
    (lib.found p).Perm (lib.books.flatMap fun b => matching p (lib.joined p (lib.hits p) b)) := by
  rw [found, candidates, List.flatMap_map]
  exact List.mergeSort_perm _ _

/-- Only the rows of a book itself make it stand in the result more than once. -/
lemma count_flatMap_le {rows : StoredBook → List String} {most : Nat} {id : String}
    (own : ∀ b, ∀ id ∈ rows b, id = b.id) (few : ∀ b, b.id = id → (rows b).length ≤ most)
    {books : List StoredBook} (nodup : (books.map (·.id)).Nodup) :
    (books.flatMap rows).count id ≤ most := by
  induction books with
  | nil => exact Nat.zero_le most
  | cons b rest ih =>
    rw [List.map_cons, List.nodup_cons] at nodup
    rw [List.flatMap_cons, List.count_append]
    -- no other book has the id of this one
    by_cases e : b.id = id
    · have others : (rest.flatMap rows).count id = 0 := by
        rw [List.count_eq_zero, List.mem_flatMap]
        rintro ⟨b', mem', mem⟩
        exact nodup.1 (List.mem_map.2 ⟨b', mem', (own b' id mem).symm.trans e.symm⟩)
      rw [others, Nat.add_zero]
      exact List.count_le_length.trans (few b e)
    · have none : (rows b).count id = 0 := by
        rw [List.count_eq_zero]
        exact fun mem => e (own b id mem).symm
      rw [none, Nat.zero_add]
      exact ih nodup.2

/-- A search finds a book at most as often as it stands in the index, or once. -/
theorem count_found_le (nodup : (lib.books.map (·.id)).Nodup) (id : String) :
    ((lib.found p).map (·.book.id)).count id ≤ max 1 ((lib.index.map (·.bookId)).count id) := by
  rw [((found_perm p).map _).count_eq, List.map_flatMap]
  refine count_flatMap_le (fun b id mem => ?_) (fun b e => ?_) nodup
  · obtain ⟨j, found, rfl⟩ := List.mem_map.1 mem
    rw [(book_of_mem_joined (mem_joined_of_mem_matching found).1).1]
  · rw [List.length_map, ← e]
    exact length_matching_le

/-- Where no book stands in the index twice, the rows are those of the selected books, one for
each. -/
theorem found_books_perm (single : (lib.index.map (·.bookId)).Nodup) :
    ((lib.found p).map (·.book)).Perm (lib.books.filter (lib.selects p)) := by
  refine ((found_perm p).map _).trans (List.Perm.of_eq ?_)
  rw [List.map_flatMap]
  induction lib.books with
  | nil => rfl
  | cons b rest ih =>
    rw [List.flatMap_cons, ih, matching_books single, List.filter_cons]
    split <;> simp

/-- Where nothing stands twice, no book is found twice. -/
lemma found_ids_nodup (single : (lib.index.map (·.bookId)).Nodup)
    (nodup : (lib.books.map (·.id)).Nodup) : ((lib.found p).map (·.book.id)).Nodup :=
  List.nodup_iff_count_le_one.2 fun id =>
    (count_found_le nodup id).trans (max_le le_rfl (List.nodup_iff_count_le_one.1 single id))

/-- The books are counted once each, in however many rows they are joined. -/
lemma countP_candidates (single : (lib.index.map (·.bookId)).Nodup) :
    (lib.candidates p).countP (·.any p.accepts) = (lib.found p).length := by
  have length := (found_books_perm (p := p) single).length_eq
  rw [List.length_map] at length
  rw [length, candidates, List.countP_map, List.countP_eq_length_filter]
  rfl

/-! ## The search -/

/-- What a search goes through before it gives a page. -/
lemma search_eq_ok (ok : lib.search f = .ok page) :
    (∀ n ∈ f.plan.integers ++ [f.plan.limit, f.plan.offset], fitsColumn n = true) ∧
      needSimple f.plan (lib.candidates f.plan) = .ok () ∧
      page.items = lib.withAuthors ((pageRows f.plan (lib.candidates f.plan)).map fun j =>
        j.book.book (j.series.map Named.name) (j.genre.map Named.name)) := by
  obtain ⟨total, _, ok⟩ := bind_eq_ok.1 ok
  obtain ⟨_, _, ok⟩ := bind_eq_ok.1 ok
  obtain ⟨_, fits, ok⟩ := bind_eq_ok.1 ok
  obtain ⟨_, simple, ok⟩ := bind_eq_ok.1 ok
  obtain ⟨books, hydrated, ok⟩ := bind_eq_ok.1 ok
  cases ok
  exact ⟨needFits_eq_ok.1 fits, during_eq_ok.1 simple, hydrate_eq_ok (during_eq_ok.1 hydrated)⟩

/-- A search counts the books that have a row which meets all conditions. -/
lemma search_total (ok : lib.search f = .ok page) :
    page.total = (lib.candidates f.plan).countP (·.any f.plan.accepts) := by
  obtain ⟨total, counted, ok⟩ := bind_eq_ok.1 ok
  obtain ⟨_, _, ok⟩ := bind_eq_ok.1 ok
  obtain ⟨_, _, ok⟩ := bind_eq_ok.1 ok
  obtain ⟨_, _, ok⟩ := bind_eq_ok.1 ok
  obtain ⟨_, _, ok⟩ := bind_eq_ok.1 ok
  cases ok
  obtain ⟨_, _, counted⟩ := bind_eq_ok.1 counted
  obtain ⟨_, _, counted⟩ := bind_eq_ok.1 counted
  obtain ⟨_, _, counted⟩ := bind_eq_ok.1 counted
  cases counted
  rfl

/-- A search lists the ids of a part of the selected rows. -/
theorem search_ok_ids (ok : lib.search f = .ok page) :
    page.items.map (·.id) =
      slice f.plan.limit f.plan.offset ((lib.found f.plan).map (·.book.id)) := by
  obtain ⟨_, _, items⟩ := search_eq_ok ok
  rw [items, withAuthors_ids, List.map_map, pageRows, slice_map]
  rfl

/-- A search that finds something has no pattern that is too long. -/
lemma simple_of_found (simple : needSimple p (lib.candidates p) = .ok ()) (mem : j ∈ lib.found p) :
    ∀ c ∈ p.criteria, c.isTooComplex = false := by
  obtain ⟨b, stored, matched⟩ := List.mem_flatMap.1 ((found_perm p).mem_iff.1 mem)
  obtain ⟨joined, accepted⟩ := mem_joined_of_mem_matching matched
  have kept := needSimple_eq_ok.1 simple _ (List.mem_map_of_mem stored) j joined
  rw [Plan.refuses, Bool.and_eq_false_iff] at kept
  rcases kept with none | open_
  · simpa using none
  · -- a row that meets all conditions meets those besides the patterns that are too long
    have all : (p.criteria.all fun c => c.isTooComplex || c.holds j) = true := by
      refine List.all_eq_true.2 fun c listed => ?_
      rw [List.all_eq_true.1 accepted c listed, Bool.or_true]
    rw [all] at open_
    cases open_

/-- All tables are there that a plan reads. -/
lemma Ready.needTables_plan (ready : lib.Ready) (p : Plan) : lib.needTables p.tables = .ok () := by
  refine needTables_eq_ok.2 fun t mem => ready t ?_
  revert t
  rw [Plan.tables]
  cases p.usesIndex <;> cases p.usesAuthors <;> decide

/-- Every engine takes a plan without patterns that are too long. -/
lemma needSimple_of_criteria (simple : ∀ c ∈ p.criteria, c.isTooComplex = false)
    (rows : List (List Joined)) {engine : Engine} {stage : Stage} :
    needSimple p rows engine stage = .ok () := by
  have none : p.criteria.any Criterion.isTooComplex = false := by simpa using simple
  refine needSimple_eq_ok_iff.2 (Bool.eq_false_iff.2 fun refused => ?_)
  obtain ⟨some, -⟩ := engine.exposed_of_refuses stage p rows refused
  rw [none] at some
  cases some

/-- The rows of a page become the books of the page, each with its authors. -/
lemma hydrate_pageRows (ready : lib.Ready) (tidy : lib.Tidy) :
    lib.hydrate ((pageRows f.plan (lib.candidates f.plan)).map fun j =>
        j.book.book (j.series.map Named.name) (j.genre.map Named.name)) =
      .ok (slice f.plan.limit f.plan.offset (lib.results f)) := by
  have ids := (found_ids_nodup (p := f.plan) tidy.single tidy.nodup).sublist
    (slice_sublist f.plan.limit f.plan.offset)
  have rows : slice f.plan.limit f.plan.offset (lib.results f) =
      (pageRows f.plan (lib.candidates f.plan)).map lib.shown := by
    rw [results, ← slice_map]
    rfl
  rw [rows, ready.hydrate_eq, withAuthors_eq tidy.sound tidy.linked, List.map_map]
  · rfl
  · rw [List.map_map, pageRows, slice_map]
    exact ids
  · intro book mem
    obtain ⟨j, -, rfl⟩ := List.mem_map.1 mem
    rfl

/-- A search gives a part of the result, and counts all of it. -/
theorem search_eq (ready : lib.Ready) (tidy : lib.Tidy)
    (fits : ∀ n ∈ f.plan.integers ++ [f.plan.limit, f.plan.offset], fitsColumn n = true)
    (simple : needSimple f.plan (lib.candidates f.plan) = .ok ()) :
    lib.search f = .ok
      { items := slice f.plan.limit f.plan.offset (lib.results f)
        total := (lib.results f).length
        limit := f.plan.limit
        offset := f.plan.offset } := by
  have tables := ready.needTables_plan f.plan
  have inside : needFits f.plan.integers = .ok () :=
    needFits_eq_ok.2 fun n mem => fits n (List.mem_append_left _ mem)
  have counted : lib.count f.plan (lib.candidates f.plan) = .ok (lib.results f).length := by
    rw [count, tables, inside, simple, countP_candidates tidy.single, results, List.length_map]
    rfl
  simp only [search, counted, tables, needFits_eq_ok.2 fits, needSimple_page, simple,
    hydrate_pageRows ready tidy]
  rfl

/-- A search that succeeds, in whatever order the engine looks at the conditions, gives what it
gives if patterns are looked at last. -/
theorem search_lazy {engine : Engine} (ok : lib.search f engine = .ok page) :
    lib.search f = .ok page := by
  obtain ⟨total, counted, ok⟩ := bind_eq_ok.1 ok
  obtain ⟨_, there, ok⟩ := bind_eq_ok.1 ok
  obtain ⟨_, fits, ok⟩ := bind_eq_ok.1 ok
  obtain ⟨_, paged, ok⟩ := bind_eq_ok.1 ok
  obtain ⟨_, there', counted⟩ := bind_eq_ok.1 counted
  obtain ⟨_, fits', counted⟩ := bind_eq_ok.1 counted
  obtain ⟨_, simple, counted⟩ := bind_eq_ok.1 counted
  have paged := needSimple_eq_ok.1 (needSimple_lazy (during_eq_ok.1 paged))
  refine bind_eq_ok.2 ⟨total, ?_, ?_⟩
  · refine bind_eq_ok.2 ⟨(), there', bind_eq_ok.2 ⟨(), fits', bind_eq_ok.2 ⟨(), ?_, counted⟩⟩⟩
    exact during_eq_ok.2 (needSimple_eq_ok.2 paged)
  · refine bind_eq_ok.2 ⟨(), there, bind_eq_ok.2 ⟨(), fits, bind_eq_ok.2 ⟨(), ?_, ok⟩⟩⟩
    exact during_eq_ok.2 (needSimple_eq_ok.2 paged)

end Library

end BookCatalog
