import BookCatalog.Proofs.Search.Ordering
import BookCatalog.Proofs.Session.Search

/-!
# Pages of a search

After every run of a session that is the only one to write to its library, for every filter with
which a search succeeds:

* `Log.pages_run`: the pages of any size, one after the other, are the books that the filter finds,
  in the order that it asks for. `Tiles` says how pages make up a list.
* `Log.items_run`: every book of a page is the one that is found by its id, with the same authors,
  whatever other books are on the page.
-/

namespace BookCatalog

/-- The first `n` pages of a search, all of one size. -/
def Session.pages (s : Session) (f : Filter) (size n : Nat) : Except Failure (List (Page Book)) :=
  (List.range n).mapM fun (k : Nat) => s.search { f with limit := size, offset := k * size }

/-- Pages of one size, one after the other, make up a list from its beginning, and all of it if
there are enough of them. Each is as long as what is left of the list allows, knows the length of
the whole, and has more behind it exactly if there is something on the next one. -/
structure Tiles (size : Nat) (books : List Book) (pages : List (Page Book)) : Prop where
  items : pages.flatMap Page.items = books.take (pages.length * size)
  whole : books.length ≤ pages.length * size → pages.flatMap Page.items = books
  total : ∀ p ∈ pages, p.total = books.length
  length : ∀ (k : Nat) p, pages[k]? = some p → p.items.length = min size (books.length - k * size)
  hasMore : ∀ (k : Nat) p, pages[k]? = some p →
    (p.hasMore = true ↔ (k + 1) * size < books.length)
  next : ∀ (k : Nat) p p', pages[k]? = some p → pages[k + 1]? = some p' →
    (p.hasMore = true ↔ p'.items ≠ [])

/-- The page of a list after `k` pages of its size. -/
def pageAt (size : Nat) (books : List Book) (k : Nat) : Page Book :=
  { items := slice size (k * size) books, total := books.length, limit := size, offset := k * size }

/-- The pages are numbered from zero. -/
lemma getElem?_pages {size n : Nat} {books : List Book} {k : Nat} {p : Page Book}
    (found : ((List.range n).map (pageAt size books))[k]? = some p) : p = pageAt size books k := by
  obtain ⟨k', listed, rfl⟩ := Option.map_eq_some_iff.1 (List.getElem?_map.symm.trans found)
  obtain ⟨-, rfl⟩ := List.getElem?_eq_some_iff.1 listed
  rw [List.getElem_range]

/-- A page is full unless the books end on it. -/
lemma length_pageAt (size : Nat) (books : List Book) (k : Nat) :
    (pageAt size books k).items.length = min size (books.length - k * size) := by
  rw [pageAt, slice_nat, List.length_take, List.length_drop]

/-- There is more behind a page if the books do not end on it. -/
lemma hasMore_pageAt (size : Nat) (books : List Book) (k : Nat) :
    (pageAt size books k).hasMore = true ↔ (k + 1) * size < books.length := by
  rw [Page.hasMore, decide_eq_true_eq, Nat.succ_mul]
  change (k * size + size : Int) < books.length ↔ _
  omega

/-- The pages of a list of books tile it. -/
lemma tiles_pages {size : Nat} (pos : 1 ≤ size) (books : List Book) (n : Nat) :
    Tiles size books ((List.range n).map (pageAt size books)) := by
  have items : ((List.range n).map (pageAt size books)).flatMap Page.items =
      books.take (((List.range n).map (pageAt size books)).length * size) := by
    rw [List.flatMap_map, List.length_map, List.length_range, ← flatMap_slice]
    rfl
  refine
    { items
      whole := fun enough => by rw [items, List.take_of_length_le enough]
      total := fun p mem => ?_
      length := fun k p found => getElem?_pages found ▸ length_pageAt size books k
      hasMore := fun k p found => getElem?_pages found ▸ hasMore_pageAt size books k
      next := fun k p p' here there => ?_ }
  · obtain ⟨k, -, rfl⟩ := List.mem_map.1 mem
    rfl
  · rw [getElem?_pages here, getElem?_pages there, hasMore_pageAt, ← List.length_pos_iff,
      length_pageAt]
    omega

/-- Where every step succeeds under some condition and then gives a certain answer, so do all of
them together. -/
lemma mapM_eq_ok {ε α β : Type} {f : α → Except ε β} {possible : α → Prop} {answer : α → β}
    (each : ∀ x y, f x = .ok y ↔ possible x ∧ y = answer x) (xs : List α) (ys : List β) :
    xs.mapM f = .ok ys ↔ (∀ x ∈ xs, possible x) ∧ ys = xs.map answer := by
  induction xs generalizing ys with
  | nil => simp [pure, Except.pure, eq_comm]
  | cons x rest ih =>
    rw [List.mapM_cons, bind_eq_ok, List.forall_mem_cons]
    constructor
    · rintro ⟨y, first, ok⟩
      obtain ⟨ys', others, ok⟩ := bind_eq_ok.1 ok
      obtain ⟨able, rfl⟩ := (each x y).1 first
      obtain ⟨all, rfl⟩ := (ih ys').1 others
      cases ok
      exact ⟨⟨able, all⟩, rfl⟩
    · rintro ⟨⟨able, all⟩, rfl⟩
      exact ⟨_, (each x _).2 ⟨able, rfl⟩, bind_eq_ok.2 ⟨_, (ih _).2 ⟨all, rfl⟩, rfl⟩⟩

namespace Log

variable {settings : Settings} {threshold : Int} {calls : List Call} {log : Log} {f : Filter}
  {page : Page Book} {size : Nat}

/-- A search that succeeds lists the result, and gives a part of it. -/
lemma Faithful.lists_of_search (faithful : log.Faithful) (found : log.session.search f = .ok page) :
    log.session.Lists f (log.session.content.results f) ∧
      page.items ⊆ log.session.content.results f := by
  rw [faithful.search_eq] at found
  obtain ⟨fits, simple, -⟩ := Library.search_eq_ok found
  refine ⟨faithful.lists_of_simple (fun n mem => fits n (List.mem_append_left _ mem)) simple, ?_⟩
  have part := Library.search_eq faithful.ready faithful.represents.tidy fits simple
  cases found.symm.trans part
  exact (slice_sublist _ _).subset

/-- A page is given exactly if its size and its offset fit. -/
lemma Faithful.search_page (faithful : log.Faithful)
    (lists : log.session.Lists f (log.session.content.results f)) (pos : 1 ≤ size) (k : Nat)
    (page : Page Book) :
    log.session.search { f with limit := size, offset := k * size } = .ok page ↔
      (fitsColumn size = true ∧ fitsColumn (k * size) = true) ∧
        page = pageAt size (log.session.content.results f) k := by
  have limit : pageLimit (size : Int) = size := if_pos (by omega)
  have offset : pageOffset (k * size : Int) = k * size := max_eq_left (by positivity)
  have given := lists size (k * size)
  rw [limit, offset] at given
  constructor
  · intro found
    have inner := found
    rw [faithful.search_eq] at inner
    obtain ⟨fits, -⟩ := Library.search_eq_ok inner
    have first : fitsColumn (pageLimit (size : Int)) = true := fits _ (by simp [Filter.plan])
    have second : fitsColumn (pageOffset (k * size : Int)) = true := fits _ (by simp [Filter.plan])
    rw [limit] at first
    rw [offset] at second
    refine ⟨⟨first, second⟩, ?_⟩
    rw [given first second] at found
    exact (Except.ok.inj found).symm
  · rintro ⟨⟨first, second⟩, rfl⟩
    exact given first second

/-- Pages are given as far as their limits and offsets fit. -/
lemma Faithful.pages_eq_ok (faithful : log.Faithful)
    (lists : log.session.Lists f (log.session.content.results f)) (pos : 1 ≤ size) (n : Nat)
    (pages : List (Page Book)) :
    log.session.pages f size n = .ok pages ↔
      (∀ k < n, fitsColumn size = true ∧ fitsColumn (k * size) = true) ∧
        pages = (List.range n).map (pageAt size (log.session.content.results f)) := by
  rw [Session.pages, mapM_eq_ok (faithful.search_page lists pos)]
  simp only [List.mem_range]

/-- Where a search succeeds, its pages of any size make up the list of the books that the filter
selects, each once and in the order that the filter asks for. Pages are given as far as their size
and their offsets fit. -/
theorem pages_run (found : ((start settings threshold).run calls).session.search f = .ok page)
    (pos : 1 ≤ size) :
    let log := (start settings threshold).run calls
    ∃ (order : Order) (books : List Book), f.Asks order ∧
      books.Pairwise (order.Places (log.session.library.rankOf f.plan) log.committed) ∧
      (books.map (·.id)).Nodup ∧
      (∀ id, id ∈ books.map (·.id) ↔ ∃ s, lastWith? id log.committed = some s ∧ f.Selects s) ∧
      (∀ book ∈ books, ∃ s, lastWith? book.id log.committed = some s ∧ book.Shows s) ∧
      ∀ n, ((∃ pages, log.session.pages f size n = .ok pages) ↔
          ∀ k < n, fitsColumn size = true ∧ fitsColumn (k * size) = true) ∧
        ∀ pages, log.session.pages f size n = .ok pages →
          pages.length = n ∧ Tiles size books pages := by
  intro log
  have faithful : log.Faithful := faithful_run settings threshold calls
  have represents := faithful.represents
  obtain ⟨lists, -⟩ := faithful.lists_of_search found
  have given := faithful.pages_eq_ok lists pos
  refine ⟨f.plan.order, log.session.content.results f, f.asks_order, ?_,
    represents.results_nodup f, fun id => represents.mem_results_ids,
    fun book mem => represents.results_show mem, fun n => ⟨?_, fun pages ok => ?_⟩⟩
  · rw [faithful.library_eq]
    exact represents.results_sorted f
  · simp only [given, exists_and_left, exists_eq, and_true]
  · obtain ⟨-, rfl⟩ := (given n pages).1 ok
    exact ⟨by simp, tiles_pages pos _ n⟩

/-- Three books, one of them without a year and one with two authors. -/
def threeBooks : List Submission :=
  [{ id := "a", title := some "A", year := some 1990, authors := some [some "Ann"] },
    { id := "b", title := some "B", year := none },
    { id := "c", title := some "C", year := some 2020, authors := some [some "Bob", some "Ann"] }]

/-- A filter that asks for nothing selects all books. -/
lemma perm_threeBooks {ids : List String} (free : f.criteria = []) (nodup : ids.Nodup)
    (selected : ∀ id, id ∈ ids ↔ ∃ s, lastWith? id threeBooks = some s ∧ f.Selects s) :
    ids.Perm ["a", "b", "c"] := by
  refine (List.perm_ext_iff_of_nodup nodup (by decide)).2 fun id => (selected id).trans ⟨?_, ?_⟩
  · rintro ⟨s, last, -⟩
    exact lastWith?_id last ▸ List.mem_map_of_mem (f := Submission.id) (lastWith?_mem last)
  · intro listed
    have selects : ∀ s, f.Selects s := fun s =>
      s.exists_credits.imp fun author credited => ⟨credited, free ▸ nofun⟩
    simp only [List.mem_cons, List.not_mem_nil, or_false] at listed
    rcases listed with rfl | rfl | rfl <;> exact ⟨_, rfl, selects _⟩

/-- Three books make up two pages of two books. -/
theorem three_books_paged :
    let log := (start { journal := .memory } defaultThreshold).run
      [.insert {} "2024-01-01T00:00:00" defaultInterval threeBooks]
    let f : Filter := { sortBy := "year", sortOrder := "desc" }
    ∃ page pages, log.session.search f = .ok page ∧ 1 ≤ 2 ∧ log.session.pages f 2 2 = .ok pages ∧
      pages.map (·.items.length) = [2, 1] ∧ pages.map Page.hasMore = [true, false] := by
  intro log f
  have committed : log.committed = threeBooks := by decide +kernel
  have faithful : log.Faithful := faithful_run _ _ _
  have found := faithful.lists (f := f) (by decide +kernel) defaultLimit 0 (by decide) (by decide)
  obtain ⟨order, books, -, -, nodup, selected, -, pages⟩ := pages_run found (by decide : 1 ≤ 2)
  obtain ⟨given, tiles⟩ := pages 2
  obtain ⟨pages, ok⟩ := given.2 (by decide)
  obtain ⟨two, tiles⟩ := tiles pages ok
  have ids := perm_threeBooks (f := f) (by decide +kernel) nodup (committed ▸ selected)
  have three : books.length = 3 := (List.length_map _).symm.trans ids.length_eq
  obtain ⟨p, p', rfl⟩ := List.length_eq_two.1 two
  have lengths := And.intro (tiles.length 0 p rfl) (tiles.length 1 p' rfl)
  have more := And.intro (tiles.hasMore 0 p rfl) (tiles.hasMore 1 p' rfl)
  rw [three] at lengths more
  have first : p.hasMore = true := more.1.2 (by decide)
  have last : p'.hasMore = false := Bool.eq_false_iff.2 fun h => absurd (more.2.1 h) (by decide)
  refine ⟨_, _, found, by decide, ok, ?_, ?_⟩
  · simp [lengths.1, lengths.2]
  · simp [first, last]

/-- Every book of a page is the one that is found by its id. Its authors are those who are linked to
it, each once and by name, and it is the same on every page of every search. -/
theorem items_run (found : ((start settings threshold).run calls).session.search f = .ok page) :
    let log := (start settings threshold).run calls
    ∀ book ∈ page.items, log.session.getBook book.id = .ok (some book) ∧
      (∀ a, a ∈ book.authors ↔
        a ∈ log.session.library.authors.rows ∧ ⟨book.id, a.id⟩ ∈ log.session.library.links) ∧
      (book.authors.map Named.name).Pairwise (· < ·) ∧
      ∀ f' page', log.session.search f' = .ok page' →
        ∀ book' ∈ page'.items, book'.id = book.id → book' = book := by
  intro log book mem
  have faithful : log.Faithful := faithful_run settings threshold calls
  have represents := faithful.represents
  -- on whatever page a book is, it is that of the result
  have same : ∀ {f page}, log.session.search f = .ok page → ∀ book ∈ page.items,
      log.session.getBook book.id = .ok (some book) ∧
        book.authors = log.session.content.authorsOf book.id := by
    intro f page found book mem
    rw [faithful.getBook_eq]
    exact represents.results_getBook faithful.ready ((faithful.lists_of_search found).2 mem)
  obtain ⟨alone, authors⟩ := same found book mem
  refine ⟨alone, fun a => ?_, ?_, fun f' page' found' book' mem' own => ?_⟩
  · rw [authors, faithful.library_eq]
    exact Library.mem_authorsOf
  · rw [authors]
    exact Library.authorsOf_sorted (represents.sound .authors) book.id
  · have alone' := (same found' book' mem').1
    rw [own, alone] at alone'
    cases alone'
    rfl

/-- The book with two authors is on the page with both of them. -/
theorem two_authors_listed :
    let log := (start { journal := .memory } defaultThreshold).run
      [.insert {} "2024-01-01T00:00:00" defaultInterval threeBooks]
    ∃ page, log.session.search {} = .ok page ∧ ∃ book ∈ page.items,
      log.session.getBook "c" = .ok (some book) ∧
        (⟨1, "Ann"⟩ : Named) ∈ book.authors ∧ (⟨2, "Bob"⟩ : Named) ∈ book.authors := by
  intro log
  have committed : log.committed = threeBooks := by decide +kernel
  have faithful : log.Faithful := faithful_run _ _ _
  have found := faithful.lists (f := {}) (by decide +kernel) defaultLimit 0 (by decide) (by decide)
  have ids := perm_threeBooks (f := {}) (by decide +kernel) (faithful.represents.results_nodup {})
    fun id => committed ▸ faithful.represents.mem_results_ids
  have three : (log.session.content.results {}).length = 3 :=
    (List.length_map _).symm.trans ids.length_eq
  obtain ⟨book, mem, own⟩ := List.mem_map.1 (ids.mem_iff.2 (by decide : "c" ∈ ["a", "b", "c"]))
  -- the page is long enough for all books
  have listed :
      book ∈ slice (pageLimit defaultLimit) (pageOffset 0) (log.session.content.results {}) := by
    have whole :
        slice (pageLimit defaultLimit) (pageOffset 0) (log.session.content.results {}) = _ :=
      List.take_of_length_le (three.trans_le (by decide))
    exact whole ▸ mem
  obtain ⟨alone, authors, -, -⟩ := items_run found book listed
  refine ⟨_, found, book, listed, own ▸ alone, (authors _).2 ?_, (authors _).2 ?_⟩ <;>
    · rw [own]
      decide +kernel

end Log

end BookCatalog
