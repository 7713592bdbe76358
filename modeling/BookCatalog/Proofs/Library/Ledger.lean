import BookCatalog.Proofs.Library.Batches

/-!
# The tables and what was stored

A ledger lists the submissions that have been stored in a library since it was empty, the last one
last. The central notions:

* `lastWith?`: the last submission with an id, which is the one that counts.
* `Library.Represents`: the tables hold the last submissions of a ledger and nothing else. It is
  true of an empty library (`Library.represents_emptied`), and a stored batch keeps it
  (`Library.Represents.storedAll`).
-/

namespace BookCatalog

variable {id : String} {s : Submission} {ledger : List Submission}

/-! ## The submission that counts -/

/-- The last submission with an id. -/
def lastWith? (id : String) (ledger : List Submission) : Option Submission :=
  ledger.reverse.find? (·.id = id)

@[simp] lemma lastWith?_nil (id : String) : lastWith? id [] = none := rfl

/-- The last submission of all is the last one with its own id. -/
@[simp] lemma lastWith?_concat (id : String) (ledger : List Submission) (s : Submission) :
    lastWith? id (ledger ++ [s]) = if s.id = id then some s else lastWith? id ledger := by
  unfold lastWith?
  rw [List.reverse_append, List.reverse_singleton, List.singleton_append, List.find?_cons]
  by_cases e : s.id = id <;> simp [e]

/-- There is a last submission with an id if there is one at all. -/
lemma lastWith?_eq_none : lastWith? id ledger = none ↔ ∀ s ∈ ledger, s.id ≠ id := by
  simp [lastWith?]

/-- The last submission with an id is in the ledger. -/
lemma lastWith?_mem (last : lastWith? id ledger = some s) : s ∈ ledger :=
  List.mem_reverse.1 (List.mem_of_find?_eq_some last)

/-- The last submission with an id has this id. -/
lemma lastWith?_id (last : lastWith? id ledger = some s) : s.id = id := by
  simpa using List.find?_some last

/-- The last submission is in the later one of two ledgers, if it has one with the id at all. -/
lemma lastWith?_append (id : String) (first second : List Submission) :
    lastWith? id (first ++ second) = (lastWith? id second).or (lastWith? id first) := by
  rw [lastWith?, List.reverse_append, List.find?_append]
  rfl

/-- The order of two ledgers that have no id in common does not matter. -/
lemma lastWith?_append_comm {first second : List Submission}
    (apart : ∀ x ∈ first, ∀ y ∈ second, x.id ≠ y.id) (id : String) :
    lastWith? id (first ++ second) = lastWith? id (second ++ first) := by
  rw [lastWith?_append, lastWith?_append]
  cases last : lastWith? id first with
  | none => simp
  | some x =>
    cases last' : lastWith? id second with
    | none => rfl
    | some y =>
      have same : x.id = y.id := (lastWith?_id last).trans (lastWith?_id last').symm
      exact absurd same (apart x (lastWith?_mem last) y (lastWith?_mem last'))

/-- The order of a ledger in which every id stands once does not matter. -/
lemma lastWith?_perm {ledger' : List Submission} (nodup : (ledger.map (·.id)).Nodup)
    (perm : ledger.Perm ledger') (id : String) : lastWith? id ledger = lastWith? id ledger' := by
  have turned := (List.reverse_perm ledger).trans (perm.trans (List.reverse_perm ledger').symm)
  refine find?_perm ?_ turned id
  rwa [List.map_reverse, List.nodup_reverse]

/-! ## The tables -/

namespace Library

variable {lib after : Library} {b : StoredBook}

/-- A row of the books is that of a submission, and its numbers stand for the submission's names. -/
def RowOf (lib : Library) (s : Submission) (b : StoredBook) : Prop :=
  ∃ seriesId genreId now, s.stored? seriesId genreId now = some b ∧
    lib.series.Refers seriesId s.series ∧ lib.genres.Refers genreId s.genre

/-- The tables hold the last submissions of a ledger and nothing else. -/
structure Represents (lib : Library) (ledger : List Submission) : Prop where
  sound : lib.NamesSound
  same_ids : lib.index.map (·.bookId) = lib.books.map (·.id)
  nodup : (lib.books.map (·.id)).Nodup
  exists_book : ∀ id s, lastWith? id ledger = some s → ∃ b ∈ lib.books, b.id = id
  book : ∀ b ∈ lib.books, ∃ s, lastWith? b.id ledger = some s ∧ lib.RowOf s b
  row : ∀ row ∈ lib.index, ∃ s, lastWith? row.bookId ledger = some s ∧ row.texts = s.texts
  links : ∀ l, l ∈ lib.links ↔
    ∃ s n, lastWith? l.bookId ledger = some s ∧ s.HasAuthor n ∧ ⟨l.authorId, n⟩ ∈ lib.authors.rows
  linked : lib.links.Nodup
  authors : ∀ id s n, lastWith? id ledger = some s → s.HasAuthor n →
    ∃ authorId, ⟨authorId, n⟩ ∈ lib.authors.rows
  storable : ∀ s ∈ ledger, s.Storable

/-- The authors of a book are those that it is linked to. -/
lemma Represents.hasAuthor_iff {id : String} {s : Submission} (rep : lib.Represents ledger)
    (last : lastWith? id ledger = some s) (name : String) :
    s.HasAuthor name ↔
      ∃ authorId, ⟨id, authorId⟩ ∈ lib.links ∧ ⟨authorId, name⟩ ∈ lib.authors.rows := by
  constructor
  · intro has
    obtain ⟨authorId, row⟩ := rep.authors id s name last has
    exact ⟨authorId, (rep.links _).2 ⟨s, name, last, has, row⟩, row⟩
  · rintro ⟨authorId, link, row⟩
    obtain ⟨s', name', last', has, row'⟩ := (rep.links _).1 link
    cases last.symm.trans last'
    cases (rep.sound .authors).eq_of_id row row' rfl
    exact has

/-- Ledgers of which the same submissions count are represented alike. -/
lemma Represents.congr (rep : lib.Represents ledger) {ledger' : List Submission}
    (same : ∀ id, lastWith? id ledger = lastWith? id ledger')
    (storable : ∀ s ∈ ledger', s.Storable) :
    lib.Represents ledger' := by
  obtain ⟨sound, same_ids, nodup, exists_book, book, row, links, linked, authors, -⟩ := rep
  simp only [same] at exists_book book row links authors
  exact ⟨sound, same_ids, nodup, exists_book, book, row, links, linked, authors, storable⟩

/-- The numbers of a row go on to stand for the same names. -/
lemma RowOf.mono (row : lib.RowOf s b) (h : lib.NamesExtend after) : after.RowOf s b := by
  obtain ⟨seriesId, genreId, now, stored, series, genre⟩ := row
  exact ⟨seriesId, genreId, now, stored, series.mono (h .series), genre.mono (h .genres)⟩

/-- A library without rows represents the empty ledger. -/
lemma represents_of_empty (authors : lib.authors.rows = []) (series : lib.series.rows = [])
    (genres : lib.genres.rows = []) (books : lib.books = []) (links : lib.links = [])
    (index : lib.index = []) : lib.Represents [] := by
  refine
    { sound := ?_
      same_ids := by rw [index, books]; rfl
      nodup := by simp [books]
      exists_book := by simp
      book := by simp [books]
      row := by simp [index]
      links := by simp [links]
      linked := by simp [links]
      authors := by simp
      storable := by simp }
  intro kind
  exact .of_empty (by cases kind <;> assumption)

/-- An empty library represents an empty ledger. -/
lemma represents_emptied (lib : Library) : lib.emptied.Represents [] :=
  represents_of_empty rfl rfl rfl rfl rfl rfl

/-- Nothing is in the tables that represent the empty ledger but, perhaps, books. -/
lemma Represents.lacks (rep : lib.Represents []) (bookId : String) : lib.Lacks bookId := by
  constructor
  · intro l mem
    obtain ⟨s, _, last, _⟩ := (rep.links l).1 mem
    cases last
  · intro row mem
    obtain ⟨s, last, _⟩ := rep.row row mem
    cases last

/-- What is left of a list of ids when one of them is taken out and added at the end. -/
lemma map_filter_ne {α : Type} (f : α → String) (xs : List α) (id : String) :
    (xs.filter (f · ≠ id)).map f = (xs.map f).filter (· ≠ id) := by
  rw [List.filter_map]
  rfl

/-- An id that is moved to the end is not there twice. -/
lemma nodup_moved {ids : List String} (nodup : ids.Nodup) (id : String) :
    (ids.filter (· ≠ id) ++ [id]).Nodup := by
  refine List.nodup_append.2 ⟨nodup.filter _, List.nodup_singleton _, ?_⟩
  intro id mem id' mem' e
  simp only [List.mem_filter, decide_eq_true_eq, List.mem_singleton] at mem mem'
  exact mem.2 (e.trans mem')

/-- The id of a stored submission moves to the end of the books. -/
lemma Gains.map_books_id (gains : lib.Gains s after) :
    after.books.map (·.id) = (lib.books.map (·.id)).filter (· ≠ s.id) ++ [s.id] := by
  obtain ⟨seriesId, genreId, now, b, stored, series, genre, books⟩ := gains.book
  rw [books, List.map_append, map_filter_ne, List.map_singleton, stored?_id stored]

/-- A stored submission does not put a book there twice. -/
lemma Gains.nodup (gains : lib.Gains s after) (nodup : (lib.books.map (·.id)).Nodup) :
    (after.books.map (·.id)).Nodup := by
  rw [gains.map_books_id]
  exact nodup_moved nodup s.id

/-- The authorship after a submission is stored is that of the last submissions. -/
lemma Gains.mem_links (gains : lib.Gains s after) (rep : lib.Represents ledger) (l : Link) :
    l ∈ after.links ↔
      ∃ s' n, lastWith? l.bookId (ledger ++ [s]) = some s' ∧ s'.HasAuthor n ∧
        ⟨l.authorId, n⟩ ∈ after.authors.rows := by
  rw [gains.links, lastWith?_concat]
  by_cases e : l.bookId = s.id
  · simp [e]
  · simp only [e, ne_eq, not_false_eq_true, and_true, false_and, or_false, Ne.symm e, if_false]
    rw [rep.links]
    -- the authors of other books keep their numbers
    have same : ∀ {n authorId other}, ⟨authorId, n⟩ ∈ lib.authors.rows →
        (⟨other, n⟩ ∈ after.authors.rows ↔ ⟨other, n⟩ ∈ lib.authors.rows) :=
      fun mem => (gains.extends_names .authors).mem_iff (gains.sound .authors) mem
    constructor
    · rintro ⟨s', n, last, has, mem⟩
      exact ⟨s', n, last, has, (same mem).2 mem⟩
    · rintro ⟨s', n, last, has, mem⟩
      obtain ⟨authorId, named⟩ := rep.authors _ _ _ last has
      exact ⟨s', n, last, has, (same named).1 mem⟩

/-- Every book after a submission is stored is one of the last submissions. -/
lemma Gains.mem_books (gains : lib.Gains s after) (rep : lib.Represents ledger)
    (mem : b ∈ after.books) :
    ∃ s', lastWith? b.id (ledger ++ [s]) = some s' ∧ after.RowOf s' b := by
  obtain ⟨seriesId, genreId, now, b', stored, series, genre, books⟩ := gains.book
  rw [lastWith?_concat]
  rw [books, List.mem_append, List.mem_singleton, List.mem_filter] at mem
  rcases mem with ⟨mem, ne⟩ | rfl
  · obtain ⟨s', last, row⟩ := rep.book b mem
    have ne : b.id ≠ s.id := by simpa using ne
    rw [if_neg ne.symm]
    exact ⟨s', last, row.mono gains.extends_names⟩
  · rw [if_pos (stored?_id stored).symm]
    exact ⟨s, rfl, seriesId, genreId, now, stored, series, genre⟩

/-- Every id of a ledger is that of a book. -/
lemma Gains.exists_book (gains : lib.Gains s after) (rep : lib.Represents ledger) {s' : Submission}
    (last : lastWith? id (ledger ++ [s]) = some s') : ∃ b ∈ after.books, b.id = id := by
  obtain ⟨seriesId, genreId, now, b, stored, _, _, books⟩ := gains.book
  rw [lastWith?_concat] at last
  rw [books]
  split at last
  case isTrue e => exact ⟨b, by simp, (stored?_id stored).trans e⟩
  case isFalse ne =>
    obtain ⟨b', mem, rfl⟩ := rep.exists_book id s' last
    exact ⟨b', by simp [mem, Ne.symm ne], rfl⟩

/-- Storing a submission adds it to the ledger. -/
lemma Gains.represents (gains : lib.Gains s after) (storable : s.Storable)
    (rep : lib.Represents ledger) : after.Represents (ledger ++ [s]) := by
  refine
    { sound := gains.sound
      same_ids := ?_
      nodup := gains.nodup rep.nodup
      exists_book := fun id s' last => gains.exists_book rep last
      book := fun b mem => gains.mem_books rep mem
      row := fun row mem => ?_
      links := gains.mem_links rep
      linked := gains.links_nodup rep.linked
      authors := fun id s' n last has => ?_
      storable := ?_ }
  · rw [gains.map_books_id, gains.index, List.map_append, map_filter_ne, rep.same_ids]
    rfl
  · rw [lastWith?_concat]
    rw [gains.index, List.mem_append, List.mem_singleton, List.mem_filter] at mem
    rcases mem with ⟨mem, ne⟩ | rfl
    · have ne : row.bookId ≠ s.id := by simpa using ne
      rw [if_neg ne.symm]
      exact rep.row row mem
    · rw [if_pos rfl]
      exact ⟨s, rfl, rfl⟩
  · rw [lastWith?_concat] at last
    split at last
    case isTrue =>
      cases last
      exact gains.authors n has
    case isFalse =>
      obtain ⟨authorId, mem⟩ := rep.authors id s' n last has
      exact ⟨authorId, (gains.extends_names .authors).rows mem⟩
  · intro s' mem
    rw [List.mem_append, List.mem_singleton] at mem
    cases mem with
    | inl old => exact rep.storable s' old
    | inr new => exact new ▸ storable

/-- Storing a batch adds it to the ledger and leaves the schema alone. -/
theorem Represents.storedAll (rep : lib.Represents ledger) {batch : List Submission}
    (storable : ∀ s ∈ batch, s.Storable) (now : String) :
    (lib.storedAll now batch).Represents (ledger ++ batch) ∧
      (lib.storedAll now batch).objects = lib.objects := by
  induction batch generalizing lib ledger with
  | nil =>
    rw [List.append_nil]
    exact ⟨rep, rfl⟩
  | cons s rest ih =>
    have first := storable s List.mem_cons_self
    have gains := stored_gains rep.sound first now
    obtain ⟨all, objects⟩ := ih (gains.represents first rep) fun s' mem =>
      storable s' (List.mem_cons_of_mem _ mem)
    rw [List.append_assoc, List.singleton_append] at all
    exact ⟨all, objects.trans gains.objects⟩

end Library

end BookCatalog
