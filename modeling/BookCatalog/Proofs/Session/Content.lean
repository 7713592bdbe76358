import BookCatalog.Proofs.Library.Showing
import BookCatalog.Proofs.Session.Log

/-!
# What a run leaves in a library

After every run of a session that is the only one to write to its library:

* `Log.index_in_sync`: the index holds one row for each book, with the texts of the last committed
  submission.
* `Log.getBook_run`: for each id the library gives back the last committed submission.
-/

namespace BookCatalog.Log

variable {log : Log}

/-- The session sees the library that represents the committed submissions. -/
lemma Faithful.library_eq (faithful : log.Faithful) :
    log.session.library = log.session.content :=
  Session.library_of_settled faithful.settled

/-- The index has a row for each book and no other row, and every row has the texts of the last
submission that was committed for its book. -/
theorem index_in_sync (settings : Settings) (threshold : Int) (calls : List Call) :
    let log := (start settings threshold).run calls
    let lib := log.session.library
    lib = log.session.content ∧
      lib.index.map (·.bookId) = lib.books.map (·.id) ∧ (lib.books.map (·.id)).Nodup ∧
      ∀ row ∈ lib.index, ∃ s names, lastWith? row.bookId log.committed = some s ∧
        s.authors = some (names.map some) ∧
        row.texts = ⟨s.title, s.annotation, String.intercalate " " names, s.series⟩ := by
  intro log lib
  have faithful := faithful_run settings threshold calls
  have seen : lib = log.session.content := faithful.library_eq
  have represents : lib.Represents log.committed := seen ▸ faithful.represents
  refine ⟨seen, represents.same_ids, represents.nodup, fun row mem => ?_⟩
  obtain ⟨s, last, texts⟩ := represents.row row mem
  obtain ⟨names, given⟩ := (represents.storable s (lastWith?_mem last)).authors
  refine ⟨s, names, last, given, ?_⟩
  have all : (names.map some).reduceOption = names := by simp [List.reduceOption]
  rw [texts, Submission.texts, given, Option.getD_some, all]

/-- The session is open, and it sees its content. -/
lemma Faithful.opened_eq (faithful : log.Faithful) :
    log.session.opened = .ok log.session.content := by
  rw [Session.opened, faithful.opened, if_pos rfl, faithful.library_eq]

/-- A book is read from the content. -/
lemma Faithful.getBook_eq (faithful : log.Faithful) (id : String) :
    log.session.getBook id = log.session.content.getBook id := by
  rw [Session.getBook, faithful.opened_eq]
  rfl

/-- No book is found exactly if no submission with its id was committed since the library was last
emptied. Otherwise the book shows the last one of them, the date as it was submitted unless its
offset is not zero and shorter than a second. -/
theorem getBook_run (settings : Settings) (threshold : Int) (calls : List Call) (id : String) :
    let log := (start settings threshold).run calls
    (log.session.getBook id = .ok none ↔ ∀ s ∈ log.committed, s.id ≠ id) ∧
      ∀ s, lastWith? id log.committed = some s →
        ∃ book, log.session.getBook id = .ok (some book) ∧ book.Shows s ∧
          (book.dateAdded = s.date ↔
            ∀ dt, s.date = some dt → ∀ o, dt.offset = some o →
              o.micros = 0 ∨ 1000000 ≤ o.micros) := by
  intro log
  have faithful := faithful_run settings threshold calls
  have found := faithful.represents.getBook faithful.ready id
  rw [← lastWith?_eq_none, faithful.getBook_eq]
  cases last : lastWith? id log.committed with
  | none =>
    rw [last] at found
    refine ⟨⟨fun _ => rfl, fun _ => found⟩, fun s other => ?_⟩
    cases other
  | some s =>
    rw [last] at found
    obtain ⟨book, shown, shows⟩ := found
    refine ⟨⟨fun none => ?_, fun none => ?_⟩, fun s' other => ?_⟩
    · rw [shown] at none
      cases none
    · cases none
    · cases other
      exact ⟨book, shown, shows, shows.dateAdded_eq_iff⟩

/-- A submission with a date whose offset is half a millisecond. -/
def halfMillisecondAhead : Submission :=
  { id := "b"
    title := some "T"
    date := some
      { date := ⟨2020, 1, 15, by decide⟩
        clock := ⟨10, 20, 30, 0, by decide⟩
        offset := some ⟨false, 500, by decide⟩ } }

/-- Not every date comes back as it was submitted: an offset of less than a second is lost. -/
theorem offset_under_second_lost :
    let log := (start { journal := .memory } defaultThreshold).run
      [.insert {} "2024-01-01T00:00:00" defaultInterval [halfMillisecondAhead]]
    lastWith? "b" log.committed = some halfMillisecondAhead ∧
      (log.session.getBook "b").map (Option.map Book.dateAdded) ≠
        .ok (some halfMillisecondAhead.date) := by
  decide +kernel

end BookCatalog.Log
