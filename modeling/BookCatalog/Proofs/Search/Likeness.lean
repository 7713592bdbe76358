import BookCatalog.Proofs.Library.Likeness
import BookCatalog.Proofs.Search.Results

/-!
# Searches in libraries that are alike

A search looks at names and not at their numbers, and it does not look at the times of the books. So
it gives the same in libraries that agree, up to these (`Library.Agrees.search`): in a likeness it
gives the likeness of what it gives in the library itself (`Library.search_likeness`).
-/

namespace BookCatalog

variable {shift : Shift} {n : Int}

/-- A book with its numbers moved, and without its times. -/
def Book.likeness (shift : Shift) (b : Book) : Book :=
  { b with
    authors := b.authors.map (Named.moved (shift .authors))
    series := b.series.map (Named.moved (shift .series))
    genre := b.genre.map (Named.moved (shift .genres))
    createdAt := ""
    updatedAt := "" }

/-- An author of a book, with its number moved. -/
def Authorship.moved (n : Int) (a : Authorship) : Authorship :=
  { a with author := a.author.moved n }

/-- A page on which every item is replaced by another one. -/
def Page.map {α β : Type} (f : α → β) (p : Page α) : Page β :=
  { items := p.items.map f, total := p.total, limit := p.limit, offset := p.offset }

def Joined.likeness (shift : Shift) (j : Joined) : Joined :=
  { book := j.book.likeness shift
    series := j.series.map (Named.moved (shift .series))
    genre := j.genre.map (Named.moved (shift .genres))
    hit := j.hit
    author := j.author.map (Named.moved (shift .authors)) }

/-! ## Numbers -/

/-- A name stays the same when its number is moved. -/
lemma map_name_moved (n : Int) (r : Option Named) :
    (r.map (Named.moved n)).map Named.name = r.map Named.name := by
  cases r <;> rfl

/-- A number and its name are moved together. -/
lemma resolved_moved (n : Int) (id : Option Int) (name : Option String) :
    resolved (id.map (· + n)) name = (resolved id name).map (Named.moved n) := by
  cases id <;> cases name <;> rfl

/-- A moved number leads to the moved name. -/
lemma Dimension.byId?_moved (n : Int) (d : Dimension) (id : Int) :
    (d.moved n).byId? (id + n) = (d.byId? id).map (Named.moved n) := by
  have same : (fun r : Named => decide (r.id = id + n)) ∘ Named.moved n =
      fun r => decide (r.id = id) := by
    funext r
    simp [Named.moved]
  rw [byId?, moved, List.find?_map, same, byId?]

/-! ## Giving authors to books -/

namespace Book

/-- An author is added before or after the numbers are moved. -/
lemma credit_likeness (shift : Shift) (books : List Book) (a : Authorship) :
    credit (books.map (likeness shift)) (a.moved (shift .authors)) =
      (credit books a).map (likeness shift) := by
  induction books with
  | nil => rfl
  | cons b rest ih =>
    have later : (rest.map (likeness shift)).any (·.id = a.bookId) =
        rest.any (·.id = a.bookId) := List.any_map
    have id : (b.likeness shift).id = b.id := rfl
    have bookId : (a.moved (shift .authors)).bookId = a.bookId := rfl
    rw [List.map_cons, credit, credit, id, bookId, later, ih]
    split
    case isTrue => simp [likeness, Authorship.moved]
    case isFalse => rfl

/-- The same for any number of authors. -/
lemma credits_likeness (shift : Shift) (books : List Book) (rows : List Authorship) :
    (rows.map (Authorship.moved (shift .authors))).foldl credit (books.map (likeness shift)) =
      (rows.foldl credit books).map (likeness shift) := by
  induction rows generalizing books with
  | nil => rfl
  | cons a rest ih => rw [List.map_cons, List.foldl_cons, List.foldl_cons, credit_likeness, ih]

end Book

namespace Library

variable {lib lib' : Library} {p : Plan} {f : Filter}

/-- What a moved number refers to is the moved name. -/
lemma nameOf?_moved (n : Int) (d : Dimension) (id : Option Int) :
    nameOf? (d.moved n) (id.map (· + n)) = (nameOf? d id).map (Named.moved n) := by
  cases id with
  | none => rfl
  | some id => exact d.byId?_moved n id

/-- The order of authors by number is the same wherever the numbers begin. -/
lemma authorships_likeness (shift : Shift) (lib : Library) (bookIds : List String) :
    (lib.likeness shift).authorships bookIds =
      (lib.authorships bookIds).map (Authorship.moved (shift .authors)) := by
  have rows : ((lib.likeness shift).links.filter fun l => bookIds.contains l.bookId).filterMap
        (lib.likeness shift).authorship? =
      ((lib.links.filter fun l => bookIds.contains l.bookId).filterMap lib.authorship?).map
        (Authorship.moved (shift .authors)) := by
    rw [likeness, List.filter_map, List.filterMap_map, List.map_filterMap]
    congr 1
    funext l
    have found :
        (lib.authors.moved (shift .authors)).byId? (l.moved (shift .authors)).authorId = _ :=
      lib.authors.byId?_moved (shift .authors) l.authorId
    simp only [authorship?, Function.comp_apply, found, Option.map_map]
    rfl
  refine (congrArg (List.mergeSort · _) rows).trans (List.map_mergeSort fun a _ b _ => ?_).symm
  simp [authorLe, Authorship.moved, Named.moved]

/-! ## Rows -/

/-- The rows of a book are joined before or after the numbers are moved. -/
lemma joined_likeness (shift : Shift) (lib : Library) (p : Plan) (hits : List Hit)
    (b : StoredBook) :
    (lib.likeness shift).joined p hits (b.likeness shift) =
      (lib.joined p hits b).map (Joined.likeness shift) := by
  have authors : ((lib.likeness shift).links.filter (·.bookId = b.id)).filterMap
        (fun l => (lib.likeness shift).authors.byId? l.authorId) =
      ((lib.links.filter (·.bookId = b.id)).filterMap fun l => lib.authors.byId? l.authorId).map
        (Named.moved (shift .authors)) := by
    rw [likeness, List.filter_map, List.filterMap_map, List.map_filterMap]
    congr 1
    funext l
    exact lib.authors.byId?_moved _ _
  have orNone : ∀ rows : List Named, orNone (rows.map (Named.moved (shift .authors))) =
      (orNone rows).map (Option.map (Named.moved (shift .authors))) := by
    intro rows
    cases rows with
    | nil => rfl
    | cons => simp [Library.orNone]
  have series : nameOf? (lib.likeness shift).series (b.likeness shift).seriesId = _ :=
    nameOf?_moved (shift .series) lib.series b.seriesId
  have genre : nameOf? (lib.likeness shift).genres (b.likeness shift).genreId = _ :=
    nameOf?_moved (shift .genres) lib.genres b.genreId
  have id : (b.likeness shift).id = b.id := rfl
  simp only [joined, series, genre, id, authors, orNone, List.map_flatMap, List.map_map]
  congr 1
  funext hit
  split
  case isTrue =>
    rw [List.map_map]
    rfl
  case isFalse => rfl

/-- The same for the rows of all books. -/
lemma candidates_likeness (shift : Shift) (lib : Library) (p : Plan) :
    (lib.likeness shift).candidates p =
      (lib.candidates p).map (List.map (Joined.likeness shift)) := by
  have books : (lib.likeness shift).books = lib.books.map (StoredBook.likeness shift) := rfl
  have hits : (lib.likeness shift).hits p = lib.hits p := rfl
  simp only [candidates, books, hits, List.map_map]
  congr 1
  funext b
  exact joined_likeness shift lib p _ b

/-- A condition does not look at the numbers or the times. -/
lemma holds_likeness (shift : Shift) (j : Joined) :
    Criterion.holds (j.likeness shift) = Criterion.holds j := by
  funext c
  cases c with
  | indexed => rfl
  | containing text =>
    simp only [Criterion.holds, Joined.texts, Joined.likeness, map_name_moved]
    rfl
  | named column names =>
    cases column <;> simp only [Criterion.holds, Joined.name?, Joined.likeness, map_name_moved] <;>
      rfl
  | yearFrom => rfl
  | yearTo => rfl

/-- A plan accepts a row whatever the numbers and the times are. -/
lemma accepts_likeness (shift : Shift) (p : Plan) (j : Joined) :
    p.accepts (j.likeness shift) = p.accepts j := by
  simp only [Plan.accepts, holds_likeness]

/-- A plan refuses a row whatever the numbers and the times are. -/
lemma refuses_likeness (shift : Shift) (p : Plan) (j : Joined) :
    p.refuses (j.likeness shift) = p.refuses j := by
  simp only [Plan.refuses, holds_likeness]

/-- The order of two rows does not depend on the numbers or the times. -/
lemma puts_likeness (shift : Shift) (o : Order) (a b : Joined) :
    o.puts (a.likeness shift) (b.likeness shift) = o.puts a b := by
  have compared : o.key.compare (a.likeness shift) (b.likeness shift) = o.key.compare a b := by
    cases o.key <;> rfl
  rw [Order.puts, compared]
  rfl

/-- The same rows of a book are selected. -/
lemma matching_likeness (shift : Shift) (p : Plan) (rows : List Joined) :
    matching p (rows.map (Joined.likeness shift)) =
      (matching p rows).map (Joined.likeness shift) := by
  have kept : (rows.map (Joined.likeness shift)).filter p.accepts =
      (rows.filter p.accepts).map (Joined.likeness shift) := by
    rw [List.filter_map]
    simp only [Function.comp_def, accepts_likeness]
  rw [matching, matching, kept]
  split
  case isTrue => rw [List.map_take]
  case isFalse => rfl

/-! ## The search -/

/-- The same rows stand on a page. -/
lemma pageRows_likeness (shift : Shift) (p : Plan) (rows : List (List Joined)) :
    pageRows p (rows.map (List.map (Joined.likeness shift))) =
      (pageRows p rows).map (Joined.likeness shift) := by
  have matched : (rows.map (List.map (Joined.likeness shift))).flatMap (matching p) =
      (rows.flatMap (matching p)).map (Joined.likeness shift) := by
    rw [List.flatMap_map, List.map_flatMap]
    simp only [matching_likeness]
  rw [pageRows, pageRows, slice_map, matched]
  congr 1
  exact (List.map_mergeSort fun a _ b _ => (puts_likeness shift p.order a b).symm).symm

/-- A plan is refused in both libraries or in none. -/
lemma needSimple_likeness (shift : Shift) (p : Plan) (rows : List (List Joined)) :
    needSimple p (rows.map (List.map (Joined.likeness shift))) = needSimple p rows := by
  simp only [needSimple, Engine.lazy, List.any_map, Function.comp_def, refuses_likeness]
  rfl

/-- The same number of books is counted. -/
lemma countP_likeness (shift : Shift) (p : Plan) (rows : List (List Joined)) :
    (rows.map (List.map (Joined.likeness shift))).countP (·.any p.accepts) =
      rows.countP (·.any p.accepts) := by
  simp only [List.countP_map, Function.comp_def, List.any_map, accepts_likeness]

/-- A row shows its book before or after the numbers are moved. -/
lemma book_likeness (shift : Shift) (j : Joined) :
    (j.likeness shift).book.book ((j.likeness shift).series.map Named.name)
        ((j.likeness shift).genre.map Named.name) =
      (j.book.book (j.series.map Named.name) (j.genre.map Named.name)).likeness shift := by
  simp only [Joined.likeness, map_name_moved, StoredBook.book, StoredBook.likeness, resolved_moved]
  rfl

/-- Books get their authors before or after the numbers are moved. -/
lemma withAuthors_likeness (shift : Shift) (lib : Library) (books : List Book) :
    (lib.likeness shift).withAuthors (books.map (Book.likeness shift)) =
      (lib.withAuthors books).map (Book.likeness shift) := by
  have ids : (books.map (Book.likeness shift)).map (·.id) = books.map (·.id) := List.map_map
  have rows : (lib.likeness shift).authorships = fun bookIds => _ :=
    funext (authorships_likeness shift lib)
  rw [withAuthors_eq_foldl, withAuthors_eq_foldl, ids, rows, ← List.map_flatMap,
    Book.credits_likeness]

/-- In a likeness, a search gives the likeness of what it gives in the library itself. -/
theorem search_likeness (ready : lib.Ready) (shift : Shift) (f : Filter) :
    (lib.likeness shift).search f = (lib.search f).map (Page.map (Book.likeness shift)) := by
  have ready' : (lib.likeness shift).Ready := ready_fresh.of_objects (by rw [fresh_eq]; rfl)
  have books : ((pageRows f.plan (lib.candidates f.plan)).map (Joined.likeness shift)).map
        (fun j => j.book.book (j.series.map Named.name) (j.genre.map Named.name)) =
      ((pageRows f.plan (lib.candidates f.plan)).map fun j =>
        j.book.book (j.series.map Named.name) (j.genre.map Named.name)).map
          (Book.likeness shift) := by
    rw [List.map_map, List.map_map]
    exact List.map_congr_left fun j _ => book_likeness shift j
  simp only [search, count, ready.needTables_plan, ready'.needTables_plan, candidates_likeness,
    needSimple_page, needSimple_likeness, countP_likeness, pageRows_likeness, books,
    ready.hydrate_eq, ready'.hydrate_eq, withAuthors_likeness]
  -- what is asked of the arguments and of the patterns is asked of both
  cases needFits f.plan.integers with
  | error => rfl
  | ok =>
    cases needSimple f.plan (lib.candidates f.plan) with
    | error => rfl
    | ok =>
      cases needFits (f.plan.integers ++ [f.plan.limit, f.plan.offset]) with
      | error => rfl
      | ok => rfl

/-- Libraries that agree give the same to every search, up to what they need not agree in. -/
theorem Agrees.search (agrees : lib.Agrees shift lib') (ready : lib.Ready) (ready' : lib'.Ready)
    (f : Filter) :
    (lib'.search f).map (Page.map (Book.likeness 0)) =
      (lib.search f).map (Page.map (Book.likeness shift)) := by
  rw [← search_likeness ready' 0, ← search_likeness ready shift, agrees_iff.1 agrees]

end Library

end BookCatalog
