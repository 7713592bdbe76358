import BookCatalog.Library.Reindex
import BookCatalog.Proofs.Library.Clearing

/-!
# What a call can do to a session

For each of the calls that change a library, all that it can do:

* `Session.Inserts`: storing a batch (`Session.insert_inserts`).
* `Session.Clears`: emptying the library (`Session.clear_clears`).
* `Session.Rebuilds`: replacing its content by the books of an index file
  (`Session.reindex_rebuilds`).

In each of them a failure leaves the content as it is, and drops what an open transaction has
changed unless the call did not get as far as to write.
-/

namespace BookCatalog

/-- What an index file holds, if one is given and can be read. -/
def readIndex : Option IndexFile → Except ReindexError Inpx
  | none => .error .noPath
  | some ⟨path, .missing⟩ => .error (.notFound path)
  | some ⟨path, source⟩ => (Inpx.read path source).outcome.mapError .index

namespace Session

variable {s s' : Session} {around : Surroundings} {now : String} {interval : Nat} {β : Type}
  [Handing β] {batch : List β} {file : Option IndexFile}

/-- Where no transaction is open, a session sees the content. -/
lemma library_of_settled (settled : s.draft = none) : s.library = s.content := by
  rw [library, settled, Option.getD_none]

/-- What storing a batch in the tables of a session leads to. -/
def batchResult (s : Session) (around : Surroundings) (now : String) (interval : Nat)
    (batch : List β) : Library.BatchResult :=
  s.library.insertAll ⟨around.locked, now⟩ interval s.freshness.known batch

/-- What storing a batch can do to a session. The knowledge about the index is gone in any case. -/
inductive Inserts (s : Session) (around : Surroundings) (now : String) (interval : Nat)
    (batch : List β) : Session → Except Failure Unit → Prop where
  | nothing :
    batch = [] →
    Inserts s around now interval batch { s with freshness := ⟨false⟩ } (.ok ())
  | closed :
    s.isOpen = false →
    Inserts s around now interval batch { s with freshness := ⟨false⟩ }
      (.error (.engine .closed))
  | stored {settings} :
    s.isOpen = true →
    (s.batchResult around now interval batch).outcome = .ok () →
    Inserts s around now interval batch
      { s with
        content := (s.batchResult around now interval batch).tables
        draft := none
        freshness := ⟨false⟩
        settings }
      (.ok ())
  | undone {settings e} :
    s.isOpen = true → batch ≠ [] →
    (s.batchResult around now interval batch).outcome = .error e →
    Inserts s around now interval batch
      { s with draft := none, freshness := ⟨false⟩, settings } (.error e)

/-- What emptying the library can do to a session. -/
inductive Clears (s : Session) (around : Surroundings) : Session → Except Failure Unit → Prop where
  | closed :
    s.isOpen = false →
    Clears s around s (.error (.engine .closed))
  | emptied :
    s.isOpen = true → s.library.Ready → around.locked = false →
    Clears s around
      { s with content := s.library.emptied, draft := none, freshness := .mark } (.ok ())
  | undone {cause} :
    s.isOpen = true → ¬(s.library.Ready ∧ around.locked = false) →
    Clears s around { s with draft := none } (.error (.catalog .clear cause))

/-- What rebuilding the library can do to a session. -/
inductive Rebuilds (s : Session) (around : Surroundings) (now : String) (interval : Nat)
    (file : Option IndexFile) : Session → Except ReindexError Imported → Prop where
  | unread {e} :
    readIndex file = .error e → (∀ cause, e ≠ .library cause) →
    Rebuilds s around now interval file s (.error e)
  | notCleared {inpx s' e} :
    readIndex file = .ok inpx → s.clear around = (s', .error e) →
    Rebuilds s around now interval file s' (.error (.library e))
  | notInserted {inpx cleared s' e} :
    readIndex file = .ok inpx → s.clear around = (cleared, .ok ()) →
    cleared.Inserts around now interval (inpx.books.map Entry.submission) s' (.error e) →
    Rebuilds s around now interval file s' (.error (.library e))
  | rebuilt {inpx cleared s'} :
    readIndex file = .ok inpx → s.clear around = (cleared, .ok ()) →
    cleared.Inserts around now interval (inpx.books.map Entry.submission) s' (.ok ()) →
    Rebuilds s around now interval file s' (.ok ⟨inpx.books.length, inpx.collection⟩)

/-! ## Storing a batch -/

/-- A batch that is stored is committed. -/
lemma store_of_ok {fresh : Bool}
    (ok : (s.library.insertAll ⟨around.locked, now⟩ interval fresh batch).outcome = .ok ()) :
    s.store around now interval fresh batch =
      ((s.write (s.library.insertAll ⟨around.locked, now⟩ interval fresh batch).tables).commit,
        ⟨.ok (), (s.library.insertAll ⟨around.locked, now⟩ interval fresh batch).notices⟩) := by
  simp only [store, ok]

/-- A batch that fails is rolled back. -/
lemma store_of_error {fresh : Bool} {e : Failure}
    (failed : (s.library.insertAll ⟨around.locked, now⟩ interval fresh batch).outcome = .error e) :
    s.store around now interval fresh batch =
      ((s.write (s.library.insertAll ⟨around.locked, now⟩ interval fresh batch).tables).rollback,
        ⟨.error e, (s.library.insertAll ⟨around.locked, now⟩ interval fresh batch).notices⟩) := by
  simp only [store, failed]

/-- Storing a batch in the tables of an open session, under some settings before and after. -/
lemma store_inserts (opened : s.isOpen = true) (ne : batch ≠ []) (before after : Settings) :
    let stored := ({ s with freshness := ⟨false⟩, settings := before } : Session).store around now
      interval s.freshness.known batch
    s.Inserts around now interval batch { stored.1 with settings := after } stored.2.outcome := by
  intro stored
  cases result : (s.batchResult around now interval batch).outcome with
  | ok =>
    have eq : stored = _ := store_of_ok result
    rw [eq]
    exact .stored opened result
  | error e =>
    have eq : stored = _ := store_of_error result
    rw [eq]
    exact .undone opened ne result

/-- All that storing a batch does is what it can do. -/
theorem insert_inserts (s : Session) (around : Surroundings) (now : String) (interval : Nat)
    (batch : List β) :
    s.Inserts around now interval batch (s.insert around now interval batch).1
      (s.insert around now interval batch).2.outcome := by
  rw [insert]
  simp only [Freshness.consume]
  split
  case isTrue empty => exact .nothing (List.isEmpty_iff.1 empty)
  case isFalse some =>
    have ne : batch ≠ [] := fun e => some (List.isEmpty_iff.2 e)
    split
    case isTrue closed => exact .closed (by simpa using closed)
    case isFalse notClosed =>
      have opened : s.isOpen = true := by simpa using notClosed
      split
      case isTrue => exact store_inserts opened ne _ _
      case isFalse => exact store_inserts opened ne s.settings _

/-! ## Emptying the library -/

/-- Emptying the library does one of three things. -/
theorem clear_clears (s : Session) (around : Surroundings) :
    s.Clears around (s.clear around).1 (s.clear around).2 := by
  rw [clear]
  split
  case isTrue closed => exact .closed (by simpa using closed)
  case isFalse notClosed =>
    have opened : s.isOpen = true := by simpa using notClosed
    split
    case h_1 lib ran =>
      obtain ⟨ready, unlocked, rfl⟩ := Library.run_clearAll_eq_ok.1 ran
      exact .emptied opened ready unlocked
    case h_2 e lib ran =>
      obtain ⟨cause, rfl⟩ := Library.run_clearAll_error ran
      -- emptying does not fail if all tables are there and nobody else writes
      refine .undone opened fun ⟨ready, unlocked⟩ => ?_
      have emptied : (Library.clearAll ⟨around.locked, ""⟩).run s.library =
          (.ok (), s.library.emptied) :=
        Library.run_clearAll_eq_ok.2 ⟨ready, unlocked, rfl⟩
      rw [ran] at emptied
      cases emptied

/-- All that emptying a library does is what it can do. -/
lemma clears_of_eq {outcome : Except Failure Unit} (eq : s.clear around = (s', outcome)) :
    s.Clears around s' outcome := by
  have clears := s.clear_clears around
  rwa [eq] at clears

/-! ## Rebuilding the library -/

/-- Replacing the content by the books that were read is part of rebuilding. -/
lemma refill_rebuilds {inpx : Inpx} (read : readIndex file = .ok inpx) :
    s.Rebuilds around now interval file (s.refill around now interval inpx).1
      (s.refill around now interval inpx).2.outcome := by
  rw [refill]
  split
  case h_1 s' e clear => exact .notCleared read clear
  case h_2 cleared clear =>
    have inserts := cleared.insert_inserts around now interval (inpx.books.map Entry.submission)
    simp only
    split
    case h_1 e failed =>
      rw [failed] at inserts
      exact .notInserted read clear inserts
    case h_2 done =>
      rw [done] at inserts
      exact .rebuilt read clear inserts

/-- Reading an index file and replacing the content by its books is part of rebuilding. -/
lemma rebuild_rebuilds {path : String} {source : IndexSource}
    (read : readIndex file = (Inpx.read path source).outcome.mapError .index) :
    s.Rebuilds around now interval file (s.rebuild around now interval path source).1
      (s.rebuild around now interval path source).2.outcome := by
  rw [rebuild]
  simp only
  split
  case h_1 e unread =>
    rw [unread] at read
    exact .unread read nofun
  case h_2 inpx done =>
    rw [done] at read
    exact refill_rebuilds read

/-- Rebuilding the library does one of four things. -/
theorem reindex_rebuilds (s : Session) (around : Surroundings) (now : String) (interval : Nat)
    (file : Option IndexFile) :
    s.Rebuilds around now interval file (s.reindex around now interval file).1
      (s.reindex around now interval file).2.outcome := by
  match file with
  | none => exact .unread rfl nofun
  | some ⟨path, .missing⟩ => exact .unread rfl nofun
  | some ⟨path, .directory⟩ => exact rebuild_rebuilds rfl
  | some ⟨path, .file members⟩ => exact rebuild_rebuilds rfl

end Session

end BookCatalog
