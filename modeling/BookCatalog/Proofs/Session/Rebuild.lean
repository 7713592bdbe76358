import BookCatalog.Proofs.Library.Accepting
import BookCatalog.Proofs.Session.Steps

/-!
# What a failed rebuilding leaves

Rebuilding a library empties it, which is committed, before it stores the books of the index file.
So a failure while the books are stored comes too late to keep what was there. `Session.Overflows`
says when this happens: everything is in order but for an integer in the file that fits no column.
In all other cases a failure leaves what is committed as it was (`Session.failed_reindex`).
-/

namespace BookCatalog.Session

variable {s s' cleared : Session} {around : Surroundings} {now : String} {interval : Nat}
  {file : Option IndexFile} {inpx : Inpx} {e : ReindexError} {cause : Failure}

/-- The index file can be read and the library can be emptied, but an integer in the file fits no
column. -/
structure Overflows (s : Session) (around : Surroundings) (file : Option IndexFile) : Prop where
  opened : s.isOpen = true
  ready : s.library.Ready
  unlocked : around.locked = false
  tooLarge : ∃ inpx, readIndex file = .ok inpx ∧ ∃ b ∈ inpx.books, b.submission.fits = false

/-- A batch of submissions that lack nothing is not stored only because of an integer. -/
lemma Inserts.tooLarge {batch : List Submission}
    (inserts : s.Inserts around now interval batch s' (.error cause)) (opened : s.isOpen = true)
    (ready : s.library.Ready) (unlocked : around.locked = false)
    (complete : ∀ b ∈ batch, b.Complete) :
    cause = .integerTooLarge ∧ (∃ b ∈ batch, b.fits = false) ∧ s'.content = s.content ∧
      s'.draft = none := by
  cases inserts with
  | closed closed =>
    rw [opened] at closed
    cases closed
  | undone _ _ failed =>
    have ends : (s.batchResult around now interval batch).outcome =
        if batch.all Submission.fits then .ok () else .error .integerTooLarge :=
      Library.insertAll_outcome unlocked ready complete
    rw [failed] at ends
    split at ends
    case isTrue => cases ends
    case isFalse some =>
      cases ends
      exact ⟨rfl, by simpa using some, rfl, rfl⟩

/-- After the library has been emptied, the books of an index file are refused only because of an
integer. -/
lemma refill_error (read : readIndex file = .ok inpx) (clears : s.Clears around cleared (.ok ()))
    (inserts : cleared.Inserts around now interval (inpx.books.map Entry.submission) s'
      (.error cause)) :
    s.Overflows around file ∧ cause = .integerTooLarge ∧ s'.content = s.library.emptied ∧
      s'.draft = none := by
  cases clears with
  | emptied opened ready unlocked =>
    -- what is listed has a title and authors, whatever else is in the file
    have complete : ∀ b ∈ inpx.books.map Entry.submission, b.Complete := by
      intro b mem
      obtain ⟨entry, _, rfl⟩ := List.mem_map.1 mem
      exact entry.complete_submission
    obtain ⟨rfl, ⟨b, mem, tooLarge⟩, content, draft⟩ :=
      inserts.tooLarge opened (ready.of_objects rfl) unlocked complete
    obtain ⟨entry, listed, rfl⟩ := List.mem_map.1 mem
    exact ⟨⟨opened, ready, unlocked, inpx, read, entry, listed, tooLarge⟩, rfl, content, draft⟩

/-- Nothing keeps the library from being emptied. -/
lemma Clears.ne_error (overflows : s.Overflows around file) :
    ¬s.Clears around s' (.error cause) := by
  intro clears
  cases clears with
  | closed closed => exact absurd overflows.opened (by simp [closed])
  | undone _ refused => exact refused ⟨overflows.ready, overflows.unlocked⟩

/-- A failed rebuilding empties the library if an integer in the file is too large, and leaves what
is committed as it was in all other cases. -/
theorem failed_reindex
    (failed : (s.reindex around now interval file).2.outcome = .error e) :
    let after := (s.reindex around now interval file).1
    (s.Overflows around file ↔ e = .library .integerTooLarge) ∧
      (s.Overflows around file →
        after.library = s.library.emptied ∧ after.content = after.library) ∧
      (¬s.Overflows around file →
        after.content = s.content ∧ (s.draft = none → after.library = s.library)) := by
  intro after
  have rebuilds := s.reindex_rebuilds around now interval file
  rw [failed] at rebuilds
  change s.Rebuilds around now interval file after (.error e) at rebuilds
  generalize after = after at rebuilds ⊢
  cases rebuilds with
  | unread unread other =>
    have not : ¬s.Overflows around file := by
      rintro ⟨_, _, _, inpx, read, _⟩
      rw [unread] at read
      cases read
    exact ⟨⟨fun overflows => absurd overflows not, fun e => absurd e (other _)⟩,
      fun overflows => absurd overflows not, fun _ => ⟨rfl, fun _ => rfl⟩⟩
  | @notCleared inpx after cause read clear =>
    have clears := clears_of_eq clear
    have not : ¬s.Overflows around file := fun overflows => Clears.ne_error overflows clears
    refine ⟨⟨fun overflows => absurd overflows not, fun e => ?_⟩,
      fun overflows => absurd overflows not, fun _ => ?_⟩
    · cases e
      cases clears
    · cases clears with
      | closed => exact ⟨rfl, fun _ => rfl⟩
      | undone =>
        refine ⟨rfl, fun settled => ?_⟩
        simp only [library, settled]
  | notInserted read clear inserts =>
    -- the library has been emptied by now, and that is committed
    obtain ⟨overflows, rfl, content, draft⟩ := refill_error read (clears_of_eq clear) inserts
    have seen : after.library = after.content := by rw [library, draft, Option.getD_none]
    exact ⟨⟨fun _ => rfl, fun _ => overflows⟩, fun _ => ⟨seen.trans content, seen.symm⟩,
      fun not => absurd overflows not⟩

/-- A session on a library in memory that holds one book. -/
def oneBook : Session :=
  let new : Session :=
    { content := Library.fresh, settings := { journal := .memory }, threshold := defaultThreshold }
  (new.insert {} "2024-01-01T00:00:00" defaultInterval [{ id := "old", title := some "Old" }]).1

/-- An index file with one book, whose size fits no column. -/
def hugeBookFile : IndexFile :=
  { path := "/library.inpx"
    source := .file (.ok
      [{ name := "x.inp"
         content := .ok
           ("Doe,Jane,:\x04sf\x04New\x04\x04\x04new\x0499999999999999999999\x04\x04\x04" ++
            "fb2\x042020-01-15\x04en\x04").toUTF8.toList }]) }

/-- The book of the library is gone after the file could not be stored. -/
theorem huge_book_empties :
    oneBook.library.books.map (·.id) = ["old"] ∧
      (oneBook.reindex {} "2024-01-02T00:00:00" defaultInterval (some hugeBookFile)).2.outcome =
        .error (.library .integerTooLarge) ∧
      (oneBook.reindex {} "2024-01-02T00:00:00" defaultInterval (some hugeBookFile)).1.library =
        oneBook.library.emptied := by
  have failed : (oneBook.reindex {} "2024-01-02T00:00:00" defaultInterval
      (some hugeBookFile)).2.outcome = .error (.library .integerTooLarge) := by
    decide +kernel
  obtain ⟨reason, empties, -⟩ := failed_reindex failed
  exact ⟨by decide +kernel, failed, (empties (reason.2 rfl)).1⟩

end BookCatalog.Session
