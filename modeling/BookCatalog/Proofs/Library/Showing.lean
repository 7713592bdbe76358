import BookCatalog.Proofs.Calendar.Iso
import BookCatalog.Proofs.Library.Clearing
import BookCatalog.Proofs.Library.Hydration
import BookCatalog.Proofs.Library.Ledger

/-!
# What a library shows

A library that represents a ledger gives back, for each id, the last submission with this id
(`Library.Represents.getBook`). `Book.Shows` says how a book shows a submission, field by field.
-/

namespace BookCatalog

variable {lib : Library} {ledger : List Submission} {s : Submission} {b : StoredBook}

/-- A book shows a submission: a name that is empty is none, its authors stand in order, each once,
and the date is the one that is read back. -/
structure Book.Shows (book : Book) (s : Submission) : Prop where
  id : book.id = s.id
  title : some book.title = s.title
  series : book.series.map Named.name = s.series.filter (· ≠ "")
  seriesNum : book.seriesNum = s.seriesNum.getD 0
  genre : book.genre.map Named.name = s.genre.filter (· ≠ "")
  year : book.year = s.year.getD 0
  language : book.language = s.language.getD ""
  fileSize : book.fileSize = s.fileSize.getD 0
  archivePath : book.archivePath = s.archivePath.getD ""
  fileNum : book.fileNum = s.fileNum.getD ""
  format : book.format = s.format.getD ""
  dateAdded : book.dateAdded = s.date.map DateTime.readBack
  rating : book.rating = s.rating.getD 0
  annotation : book.annotation = s.annotation.getD ""
  authors_sorted : (book.authors.map Named.name).Pairwise (· < ·)
  authors : ∀ name, name ∈ book.authors.map Named.name ↔ s.HasAuthor name

/-- The date is shown as it was submitted, unless its offset is not zero and shorter than a
second. -/
lemma Book.Shows.dateAdded_eq_iff {book : Book} {s : Submission} (shows : book.Shows s) :
    book.dateAdded = s.date ↔
      ∀ dt, s.date = some dt → ∀ o, dt.offset = some o → o.micros = 0 ∨ 1000000 ≤ o.micros := by
  rw [shows.dateAdded]
  cases s.date with
  | none => simp
  | some dt => simp [DateTime.readBack_eq_self]

/-! ## Names -/

/-- A number is looked up as the name that it stands for. -/
lemma Dimension.Refers.names {d : Dimension} {id : Option Int} {name : Option String}
    (refers : d.Refers id name) (sound : d.Sound) :
    (Library.nameOf? d id).map Named.name = name.filter (· ≠ "") := by
  cases refers with
  | missing => rfl
  | empty => rfl
  | @named i n ne mem =>
    have found : d.byId? i = some ⟨i, n⟩ := sound.byId?_of_mem mem
    have kept : (some n).filter (· ≠ "") = some n := Option.filter_some_pos (by simpa using ne)
    rw [kept]
    simp [Library.nameOf?, found]

/-- A number is resolved to the name that it stands for. -/
lemma Dimension.Refers.resolved {d : Dimension} {id : Option Int} {name : Option String}
    (refers : d.Refers id name) (sound : d.Sound) :
    (BookCatalog.resolved id ((Library.nameOf? d id).map Named.name)).map Named.name =
      name.filter (· ≠ "") := by
  rw [refers.names sound]
  cases refers with
  | missing => rfl
  | empty => rfl
  | @named i n => cases (some n).filter (· ≠ "") <;> rfl

/-! ## Authors -/

namespace Library

/-- The authors of a book are those of the last submission with its id. -/
lemma Represents.mem_names_authorsOf (rep : lib.Represents ledger) {id name : String}
    (last : lastWith? id ledger = some s) :
    name ∈ (lib.authorsOf id).map Named.name ↔ s.HasAuthor name := by
  rw [rep.hasAuthor_iff last]
  constructor
  · intro named
    obtain ⟨a, mem, rfl⟩ := List.mem_map.1 named
    obtain ⟨row, link⟩ := mem_authorsOf.1 mem
    exact ⟨a.id, link, row⟩
  · rintro ⟨authorId, link, row⟩
    exact List.mem_map.2 ⟨⟨authorId, name⟩, mem_authorsOf.2 ⟨row, link⟩, rfl⟩

/-! ## Books -/

/-- A date is read back from the text that is stored for it. -/
lemma readBack_date (date : Option DateTime) :
    (date.map DateTime.iso).bind DateTime.ofIso? = date.map DateTime.readBack := by
  cases date with
  | none => rfl
  | some dt => rw [Option.map_some, Option.bind_some, dt.ofIso?_iso, Option.map_some]

/-- The book of a row, with its authors, shows the submission that the row is of. -/
lemma Represents.shows (rep : lib.Represents ledger) (last : lastWith? b.id ledger = some s)
    (row : lib.RowOf s b) :
    ({ lib.bookOf b with authors := lib.authorsOf b.id } : Book).Shows s := by
  obtain ⟨seriesId, genreId, now, stored, series, genre⟩ := row
  have sorted := authorsOf_sorted (rep.sound .authors) b.id
  obtain ⟨title, titled, rfl⟩ := Option.map_eq_some_iff.1 stored
  exact
    { id := rfl
      title := titled.symm
      series := series.resolved (rep.sound .series)
      seriesNum := rfl
      genre := genre.resolved (rep.sound .genres)
      year := rfl
      language := rfl
      fileSize := rfl
      archivePath := rfl
      fileNum := rfl
      format := rfl
      dateAdded := readBack_date s.date
      rating := rfl
      annotation := rfl
      authors_sorted := sorted
      authors := fun _ => rep.mem_names_authorsOf last }

/-- The tables that a book is read from are there. -/
lemma Ready.needTables_books (ready : lib.Ready) :
    lib.needTables [.books, .series, .genres] = .ok () :=
  needTables_eq_ok.2 fun t mem => ready t (by revert t; decide)

/-- Books get their authors, as the tables of these are there. -/
lemma Ready.hydrate_eq (ready : lib.Ready) (books : List Book) :
    lib.hydrate books = .ok (lib.withAuthors books) := by
  have authors : lib.needTables [.authors, .bookAuthors] = .ok () :=
    needTables_eq_ok.2 fun t mem => ready t (by revert t; decide)
  rw [hydrate, authors]
  split
  case isTrue none =>
    cases List.isEmpty_iff.1 none
    rfl
  case isFalse => rfl

/-- A book is found by its id, with its own authors. -/
lemma Represents.getBook_of_mem (rep : lib.Represents ledger) (ready : lib.Ready)
    (mem : b ∈ lib.books) :
    lib.getBook b.id = .ok (some { lib.bookOf b with authors := lib.authorsOf b.id }) := by
  have found : lib.books.find? (·.id = b.id) = some b := find?_of_nodup rep.nodup mem
  have shown : lib.withAuthors [lib.bookOf b] =
      [{ lib.bookOf b with authors := lib.authorsOf b.id }] := by
    refine withAuthors_eq (rep.sound .authors) rep.linked (List.nodup_singleton _) fun b' only => ?_
    rw [List.mem_singleton.1 only]
    rfl
  simp only [Library.getBook, ready.needTables_books, found, ready.hydrate_eq, shown]
  rfl

/-- A library gives back the last submission with an id. -/
theorem Represents.getBook (rep : lib.Represents ledger) (ready : lib.Ready) (id : String) :
    match lastWith? id ledger with
    | none => lib.getBook id = .ok none
    | some s => ∃ book, lib.getBook id = .ok (some book) ∧ book.Shows s := by
  split
  case h_1 unstored =>
    have absent : lib.books.find? (·.id = id) = none := by
      refine List.find?_eq_none.2 fun b mem same => ?_
      obtain ⟨s, last, _⟩ := rep.book b mem
      simp only [decide_eq_true_eq] at same
      rw [same, unstored] at last
      cases last
    simp only [Library.getBook, ready.needTables_books, absent]
    rfl
  case h_2 s last =>
    obtain ⟨b, mem, rfl⟩ := rep.exists_book id s last
    obtain ⟨s', last', row⟩ := rep.book b mem
    cases last.symm.trans last'
    exact ⟨_, rep.getBook_of_mem ready mem, rep.shows last row⟩

end Library

end BookCatalog
