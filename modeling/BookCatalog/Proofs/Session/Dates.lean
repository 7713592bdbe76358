import BookCatalog.Proofs.Archive.Reading
import BookCatalog.Proofs.Listing.Dates
import BookCatalog.Proofs.Session.Counting

/-!
# Dates of imported books

The books of an index file are dated by their years (`dated_of_readIndex`). A date goes into its
column as a text and comes back as it was (`Entry.stored_date`). So no row that an index file puts
into a library shows a date of another year than the one beside it (`StoredBook.Dated`), whether or
not the file could be stored (`Session.dated_reindex`).
-/

namespace BookCatalog

/-- The date in a row is the first moment of a day of the year in the row, and the book that is read
from the row has this date and this year. -/
def StoredBook.Dated (b : StoredBook) : Prop :=
  ∀ text, b.dateAdded = some text →
    ∃ d : Date, text = d.midnight.iso ∧ b.year = some (d.year : Int) ∧
      ∀ seriesName genreName, ∃ book, Book.ofRow? (b.row seriesName genreName) = .ok book ∧
        book.dateAdded = some d.midnight ∧ book.year = d.year

/-! ## Rows -/

variable {e : Entry} {d : Date} {b : StoredBook} {seriesId genreId : Option Int} {now : String}

/-- The first moment of a day comes back as it was. -/
lemma DateTime.ofIso?_midnight (d : Date) : DateTime.ofIso? d.midnight.iso = some d.midnight :=
  d.midnight.ofIso?_iso

/-- The book that is read from a row with the text of a day has this day as its date. -/
lemma StoredBook.read_date (text : b.dateAdded = some d.midnight.iso)
    (seriesName genreName : Option String) :
    ∃ book, Book.ofRow? (b.row seriesName genreName) = .ok book ∧ book.dateAdded = some d.midnight ∧
      book.year = b.year.getD 0 := by
  refine ⟨_, Book.ofRow?_row b seriesName genreName, ?_, rfl⟩
  show b.dateAdded.bind DateTime.ofIso? = some d.midnight
  rw [text, Option.bind_some, DateTime.ofIso?_midnight]

/-- The row of a listed book is dated if the book is. -/
lemma Entry.Dated.stored (dated : e.Dated)
    (stored : e.submission.stored? seriesId genreId now = some b) :
    b.Dated := by
  obtain ⟨title, -, rfl⟩ := Option.map_eq_some_iff.1 stored
  intro text written
  obtain ⟨dt, date, rfl⟩ := Option.map_eq_some_iff.1 written
  obtain ⟨d, rfl, year⟩ := dated dt date
  refine ⟨d, rfl, congrArg some year, fun seriesName genreName => ?_⟩
  obtain ⟨book, read, shown, kept⟩ := StoredBook.read_date written seriesName genreName
  exact ⟨book, read, shown, kept.trans year⟩

/-- A listed book with a date has a row, the text of the date is in its column, and it is read
back. -/
lemma Entry.stored_date (date : e.date = some d.midnight) (seriesId genreId : Option Int)
    (now : String) :
    (e.submission.values seriesId genreId)[11]? = some (.text d.midnight.iso) ∧
      ∃ b, e.submission.stored? seriesId genreId now = some b ∧ b.dateAdded = some d.midnight.iso ∧
        ∀ seriesName genreName, ∃ book, Book.ofRow? (b.row seriesName genreName) = .ok book ∧
          book.dateAdded = e.date := by
  have text : e.submission.date.map DateTime.iso = some d.midnight.iso :=
    congrArg (Option.map DateTime.iso) date
  obtain ⟨b, stored, own⟩ : ∃ b, e.submission.stored? seriesId genreId now = some b ∧
      b.dateAdded = some d.midnight.iso := ⟨_, rfl, text⟩
  refine ⟨?_, b, stored, own, fun seriesName genreName => ?_⟩
  · show some (Value.ofText? (e.submission.date.map DateTime.iso)) = _
    rw [text]
    rfl
  · obtain ⟨book, read, shown, -⟩ := StoredBook.read_date own seriesName genreName
    exact ⟨book, read, shown.trans date.symm⟩

/-! ## Index files -/

variable {file : Option IndexFile} {inpx : Inpx}

/-- The books of a member are dated as their lines say. -/
lemma Inpx.dated_of_listed {m : Archive.Member} (mem : e ∈ Inpx.listed m) : e.Dated := by
  rw [Inpx.listed] at mem
  split at mem
  · cases text : Inpx.text? m with
    | none =>
      rw [text] at mem
      cases mem
    | some cs =>
      rw [text] at mem
      exact Listing.dated_of_mem_books mem
  · cases mem

/-- Books are read from a file that is there. -/
lemma exists_read_of_readIndex (read : readIndex file = .ok inpx) :
    ∃ path source, (Inpx.read path (.file source)).outcome = .ok inpx := by
  obtain _ | ⟨path, source⟩ := file
  · cases read
  · cases source with
    | missing => cases read
    | directory => cases read
    | file source =>
      refine ⟨path, source, ?_⟩
      change (Inpx.read path (.file source)).outcome.mapError ReindexError.index = .ok inpx at read
      cases outcome : (Inpx.read path (.file source)).outcome with
      | error cause =>
        rw [outcome] at read
        cases read
      | ok inpx' =>
        rw [outcome] at read
        cases read
        rfl

/-- The books of an index file are dated by their years. -/
lemma dated_of_readIndex (read : readIndex file = .ok inpx) : ∀ e ∈ inpx.books, e.Dated := by
  intro e mem
  obtain ⟨path, source, ok⟩ := exists_read_of_readIndex read
  obtain ⟨ms, -, -, rfl⟩ := Inpx.read_eq_ok.1 ok
  obtain ⟨m, -, listed⟩ := List.mem_flatMap.1 mem
  exact Inpx.dated_of_listed listed

/-! ## Rebuilding -/

namespace Session

variable {s s' : Session} {around : Surroundings} {interval : Nat} {imported : Imported}
  {cause : ReindexError}

/-- The rows of a library that has been rebuilt are dated. -/
lemma dated_of_rebuilt (rebuilt : (s.reindex around now interval file).2.outcome = .ok imported) :
    ∀ b ∈ (s.reindex around now interval file).1.library.books, b.Dated := by
  obtain ⟨inpx, read, -, faithful⟩ := faithful_reindex rebuilt
  intro b mem
  rw [Session.library_of_settled faithful.settled] at mem
  obtain ⟨s, last, seriesId, genreId, now, stored, -, -⟩ := faithful.represents.book b mem
  obtain ⟨e, listed, rfl⟩ := List.mem_map.1 (lastWith?_mem last)
  exact (dated_of_readIndex read e listed).stored stored

/-- Rebuilding that fails adds no row to the library. -/
lemma Rebuilds.kept (rebuilds : s.Rebuilds around now interval file s' (.error cause)) :
    ∀ b ∈ s'.library.books, b ∈ s.library.books ∨ b ∈ s.content.books := by
  intro b mem
  cases rebuilds with
  | unread => exact .inl mem
  | notCleared read clear =>
    cases clears_of_eq clear with
    | closed => exact .inl mem
    | undone => exact .inr mem
  | notInserted read clear inserts =>
    -- the library was emptied, and no book was stored in it
    obtain ⟨-, -, content, draft⟩ := refill_error read (clears_of_eq clear) inserts
    rw [library_of_settled draft, content] at mem
    cases mem

end Session

/-- The year of a listed book and its date never disagree. Where a date is read from a field, the
year of the field is its year; the date of a book goes into its row as a text and is read back as it
was; and rebuilding a library puts no row into it that is not dated: if it succeeds all rows of the
library are, and if it fails they were there before. -/
theorem Session.dated_reindex :
    (∀ field d, Listing.date? field = some d → Listing.year field = d.year) ∧
    (∀ (e : Entry) (d : Date), e.date = some d.midnight → ∀ seriesId genreId now,
      (e.submission.values seriesId genreId)[11]? = some (.text d.midnight.iso) ∧
        ∃ b, e.submission.stored? seriesId genreId now = some b ∧
        b.dateAdded = some d.midnight.iso ∧
          ∀ seriesName genreName, ∃ book, Book.ofRow? (b.row seriesName genreName) = .ok book ∧
            book.dateAdded = e.date) ∧
    ∀ (s : Session) (around : Surroundings) (now : String) (interval : Nat)
      (file : Option IndexFile), let after := s.reindex around now interval file
      ∀ b ∈ after.1.library.books, b.Dated ∨
        (∃ cause, after.2.outcome = .error cause) ∧
        (b ∈ s.library.books ∨ b ∈ s.content.books) := by
  refine ⟨fun field d => Listing.year_of_date?, fun e d => Entry.stored_date, ?_⟩
  intro s around now interval file after b mem
  cases outcome : after.2.outcome with
  | ok imported => exact .inl (dated_of_rebuilt outcome b mem)
  | error cause =>
    have rebuilds := s.reindex_rebuilds around now interval file
    rw [outcome] at rebuilds
    exact .inr ⟨⟨cause, rfl⟩, rebuilds.kept b mem⟩

/-- An index file with one book, whose date is written in digits of two scripts. -/
def twoScriptsFile : IndexFile :=
  { path := "/library.inpx"
    source := .file (.ok
      [{ name := "x.inp"
         content := .ok ("Doe,Jane,:\x04sf\x04New\x04\x04\x04b\x04120\x04\x04\x04fb2\x04" ++
          "٢٠٢٠-1-1٥\x04en\x04").toUTF8.toList }]) }

/-- A new library that has been rebuilt from this file. -/
def rebuiltFromTwoScripts : Session × Reply ReindexError Imported :=
  (Log.start { journal := .memory } defaultThreshold).session.reindex {} "2024-01-01T00:00:00"
    defaultInterval (some twoScriptsFile)

/-- The book of this file is stored with its date and the year of it. -/
theorem Session.two_scripts_dated :
    Listing.year "٢٠٢٠-1-1٥".toList = 2020 ∧
      rebuiltFromTwoScripts.1.library.books.map (fun b => (b.dateAdded, b.year)) =
        [(some "2020-01-15T00:00:00", some 2020)] ∧
      ∀ b ∈ rebuiltFromTwoScripts.1.library.books, b.Dated := by
  obtain ⟨year, -, rows⟩ := Session.dated_reindex
  have date : Listing.date? "٢٠٢٠-1-1٥".toList = some ⟨2020, 1, 15, by decide⟩ := by decide +kernel
  refine ⟨year _ _ date, by decide +kernel, fun b mem => ?_⟩
  have rebuilt : rebuiltFromTwoScripts.2.outcome = .ok ⟨1, none⟩ := by decide +kernel
  rcases rows _ _ _ _ _ b mem with dated | ⟨⟨cause, failed⟩, -⟩
  · exact dated
  · cases rebuilt.symm.trans failed

end BookCatalog
