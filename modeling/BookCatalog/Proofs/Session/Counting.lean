import BookCatalog.Proofs.Session.Rebuild
import BookCatalog.Proofs.Session.Search

/-!
# How many books are imported

Rebuilding reports how many books are listed in its index file, and a library keeps one book for
each id. So the library holds as many books as there are different ids in the file, in its tables
and for a search (`Session.reindex_counts`). These are fewer than reported if an id is listed twice
(`Session.listed_twice_held_once`).
-/

namespace BookCatalog

/-- The ids of the books that are listed in an index file, each once. -/
def Inpx.ids (inpx : Inpx) : List String :=
  (inpx.books.map Entry.id).dedup

/-- As many books are listed as there are different ids only if no id is listed twice. -/
lemma Inpx.length_books_eq_iff {inpx : Inpx} :
    inpx.books.length = inpx.ids.length ↔ (inpx.books.map Entry.id).Nodup := by
  rw [← List.dedup_eq_self, Inpx.ids, ← List.length_map (f := Entry.id)]
  constructor
  · exact fun same => (List.dedup_sublist _).eq_of_length same.symm
  · exact fun same => congrArg List.length same.symm

/-- The ids of a ledger are those that have a last submission. -/
lemma exists_last_iff {id : String} {ledger : List Submission} :
    (∃ s, lastWith? id ledger = some s) ↔ id ∈ (ledger.map (·.id)).dedup := by
  rw [List.mem_dedup, List.mem_map]
  constructor
  · rintro ⟨s, last⟩
    exact ⟨s, lastWith?_mem last, lastWith?_id last⟩
  · rintro ⟨s, mem, rfl⟩
    cases last : lastWith? s.id ledger with
    | none => exact absurd rfl (lastWith?_eq_none.1 last s mem)
    | some s' => exact ⟨s', rfl⟩

namespace Library

variable {lib : Library} {ledger : List Submission} {f : Filter}

/-- The books of a library are those of its ledger, one for each id. -/
lemma Represents.books_ids_perm (rep : lib.Represents ledger) :
    (lib.books.map (·.id)).Perm (ledger.map (·.id)).dedup := by
  refine (List.perm_ext_iff_of_nodup rep.nodup (List.nodup_dedup _)).2 fun id => ?_
  rw [← exists_last_iff, List.mem_map]
  constructor
  · rintro ⟨b, mem, rfl⟩
    obtain ⟨s, last, -⟩ := rep.book b mem
    exact ⟨s, last⟩
  · rintro ⟨s, last⟩
    exact rep.exists_book id s last

/-- A filter that asks for nothing finds all books. -/
lemma Represents.results_ids_perm (rep : lib.Represents ledger) (free : f.criteria = []) :
    ((lib.results f).map (·.id)).Perm (ledger.map (·.id)).dedup := by
  have selects : ∀ s, f.Selects s := fun s =>
    s.exists_credits.imp fun author credited => ⟨credited, free ▸ nofun⟩
  refine (List.perm_ext_iff_of_nodup (rep.results_nodup f) (List.nodup_dedup _)).2 fun id => ?_
  rw [← exists_last_iff, rep.mem_results_ids]
  exact exists_congr fun s => and_iff_left (selects s)

/-- The books are counted once each, in their own table and in the index. -/
lemma Represents.counts (rep : lib.Represents ledger) (ready : lib.Ready) :
    ∃ counts, lib.counts = .ok counts ∧
      counts.books = (ledger.map (·.id)).dedup.length ∧
      counts.booksFts = (ledger.map (·.id)).dedup.length := by
  have tables : lib.needTables [.books, .authors, .series, .genres, .bookAuthors, .booksFts] =
      .ok () :=
    needTables_eq_ok.2 fun t mem => ready t (by revert t; decide)
  have books : lib.books.length = (ledger.map (·.id)).dedup.length :=
    (List.length_map _).symm.trans rep.books_ids_perm.length_eq
  have index : lib.index.length = lib.books.length := by
    have same := congrArg List.length rep.same_ids
    rwa [List.length_map, List.length_map] at same
  simp only [Library.counts, tables]
  exact ⟨_, rfl, books, index.trans books⟩

end Library

namespace Session

variable {s : Session} {around : Surroundings} {now : String} {interval : Nat}
  {file : Option IndexFile} {imported : Imported}

/-- A library that has been rebuilt represents the books of the file. -/
lemma faithful_reindex (rebuilt : (s.reindex around now interval file).2.outcome = .ok imported) :
    ∃ inpx, readIndex file = .ok inpx ∧ imported.count = inpx.books.length ∧
      Log.Faithful ⟨(s.reindex around now interval file).1, inpx.books.map Entry.submission⟩ := by
  have rebuilds := s.reindex_rebuilds around now interval file
  rw [rebuilt] at rebuilds
  generalize (s.reindex around now interval file).1 = after at rebuilds ⊢
  cases rebuilds with
  | @rebuilt inpx _ _ read clear inserts =>
    obtain ⟨holds, -, opened⟩ := (clears_of_eq clear).holds
    have isOpen := (holds.inserts inserts).isOpen.trans opened
    have settled := inserts.settled (clears_of_eq clear).settled
    exact ⟨inpx, read, rfl, Log.faithful_of_holds isOpen settled (holds.after_inserts inserts)⟩

/-- A submission has the id of its entry. -/
lemma ids_submission (books : List Entry) :
    ((books.map Entry.submission).map (·.id)) = books.map Entry.id := by
  rw [List.map_map]
  rfl

/-- A library that has been rebuilt holds one book for each id of the index file: so many rows are
in its tables of books and in its index, and so many books are counted by every search that asks for
nothing. These are as many as are reported exactly if no id is listed twice. -/
theorem reindex_counts (rebuilt : (s.reindex around now interval file).2.outcome = .ok imported) :
    let after := (s.reindex around now interval file).1
    ∃ inpx, readIndex file = .ok inpx ∧ imported.count = inpx.books.length ∧
      (∃ counts, after.counts = .ok counts ∧ counts.books = inpx.ids.length ∧
        counts.booksFts = inpx.ids.length) ∧
      (∀ f : Filter, f.criteria = [] → fitsColumn f.limit = true → fitsColumn f.offset = true →
        ∃ page, after.search f = .ok page ∧ page.total = inpx.ids.length) ∧
      (imported.count = inpx.ids.length ↔ (inpx.books.map Entry.id).Nodup) := by
  intro after
  obtain ⟨inpx, read, count, faithful⟩ := faithful_reindex rebuilt
  have ids : ((inpx.books.map Entry.submission).map (·.id)).dedup = inpx.ids :=
    congrArg List.dedup (ids_submission inpx.books)
  refine ⟨inpx, read, count, ?_, fun f free limited skipped => ?_, count ▸ Inpx.length_books_eq_iff⟩
  · have represents : after.content.Represents _ := faithful.represents
    obtain ⟨counts, counted, books, index⟩ := represents.counts faithful.ready
    have opened : after.opened = .ok after.content := faithful.opened_eq
    rw [ids] at books index
    refine ⟨counts, ?_, books, index⟩
    simp only [Session.counts, opened, bind, Except.bind, counted]
  · have allowed : f.Allowed := by
      rw [Filter.Allowed, free]
      exact nofun
    have length := (faithful.represents.results_ids_perm free).length_eq
    rw [List.length_map, ids] at length
    exact ⟨_, faithful.lists allowed f.limit f.offset limited skipped, congrArg Nat.cast length⟩

/-- An index file with two books of one id. -/
def sameIdFile : IndexFile :=
  { path := "/library.inpx"
    source := .file (.ok
      [{ name := "x.inp"
         content := .ok
           ("Doe,Jane,:\x04sf\x04Old\x04\x04\x04b\x04120\x04\x04\x04" ++
            "fb2\x042020-01-15\x04en\x04\n" ++
            "Doe,Jane,:\x04sf\x04New\x04\x04\x04b\x04120\x04\x04\x04" ++
            "fb2\x042020-01-15\x04en\x04").toUTF8.toList }]) }

/-- What a new library becomes when it is rebuilt from this file, and what is reported. -/
def rebuiltTwice : Session × Reply ReindexError Imported :=
  (Log.start { journal := .memory } defaultThreshold).session.reindex {} "2024-01-01T00:00:00"
    defaultInterval (some sameIdFile)

/-- Two books are reported that are one in the library. -/
theorem listed_twice_held_once :
    rebuiltTwice.2.outcome = .ok ⟨2, none⟩ ∧
      rebuiltTwice.1.counts.map (fun c => (c.books, c.booksFts)) = .ok (1, 1) := by
  decide +kernel

/-- One book is counted in the library, also by a search. -/
theorem listed_twice_found_once :
    rebuiltTwice.2.outcome = .ok ⟨2, none⟩ ∧
      ∃ page, rebuiltTwice.1.search {} = .ok page ∧ page.total = 1 := by
  have rebuilt : rebuiltTwice.2.outcome = .ok ⟨2, none⟩ := by decide +kernel
  obtain ⟨inpx, read, -, -, found, -⟩ := reindex_counts rebuilt
  have ids : (readIndex (some sameIdFile)).map Inpx.ids = .ok ["b"] := by decide +kernel
  rw [read] at ids
  obtain ⟨page, ok, total⟩ := found {} (by decide +kernel) (by decide) (by decide)
  refine ⟨rebuilt, page, ok, ?_⟩
  rw [total, Except.ok.inj ids]
  rfl

end Session

end BookCatalog
