import BookCatalog.Library.Batch
import BookCatalog.Library.Freshness
import BookCatalog.Library.Schema
import BookCatalog.Library.Search
import BookCatalog.Library.Settings

/-!
# Working on a library

A `Session` is a catalog at work on one connection: the content that everybody sees, the changes of
a transaction that is still open, the settings of the connection, and whether the index is known to
be empty. Storing and clearing either take effect as a whole or change no table.
-/

namespace BookCatalog

/-- What surrounds a session: whether another connection is writing to the library, and whether the
library is open on another connection. -/
structure Surroundings where
  locked : Bool := false
  shared : Bool := false
  deriving DecidableEq, Repr

/-- A catalog at work. `draft` holds the changes of an open transaction, and `freshness` is what the
catalog knows about the index. -/
structure Session where
  content : Library
  draft : Option Library := none
  isOpen : Bool := true
  settings : Settings
  threshold : Int
  freshness : Freshness := {}
  deriving DecidableEq, Repr

/-- The batch size from which the settings are relaxed, unless another is asked for. -/
def defaultThreshold : Int := 1000

/-- After how many books progress is reported, unless another number is asked for. -/
def defaultInterval : Nat := 50000

namespace Session

/-- The tables as the session sees them. -/
def library (s : Session) : Library :=
  s.draft.getD s.content

/-- The tables, unless the connection is closed. -/
def opened (s : Session) : Except EngineError Library :=
  if s.isOpen then .ok s.library else .error .closed

/-- The conditions under which settings can be changed. -/
def conditions (s : Session) (around : Surroundings) : Conditions :=
  { inTransaction := s.draft.isSome, shared := around.shared }

/-- The session with changed tables in its open transaction. -/
def write (s : Session) (lib : Library) : Session :=
  { s with draft := some lib }

/-- The session with the changes of the open transaction made for everybody. -/
def commit (s : Session) : Session :=
  { s with content := s.library, draft := none }

/-- The session without the changes of the open transaction. -/
def rollback (s : Session) : Session :=
  { s with draft := none }

/-- Stores a batch in one transaction, at the time `now`, and reports progress after every
`interval` books. -/
def store {β : Type} [Handing β] (s : Session) (around : Surroundings) (now : String)
    (interval : Nat) (fresh : Bool) (batch : List β) : Session × Reply Failure Unit :=
  let result := s.library.insertAll ⟨around.locked, now⟩ interval fresh batch
  let s := s.write result.tables
  match result.outcome with
  | .ok () => (s.commit, ⟨.ok (), result.notices⟩)
  | .error e => (s.rollback, ⟨.error e, result.notices⟩)

/-- Stores a batch with relaxed settings, which are put back afterwards. -/
def storeRelaxed {β : Type} [Handing β] (s : Session) (around : Surroundings) (now : String)
    (interval : Nat) (fresh : Bool) (batch : List β) : Session × Reply Failure Unit :=
  let relaxed := s.settings.relax (s.conditions around)
  let (after, reply) :=
    { s with settings := relaxed.settings }.store around now interval fresh batch
  ({ after with settings := relaxed.restore s.settings (after.conditions around) },
    { reply with notices := relaxed.notices ++ reply.notices })

/-- Stores books, replacing those with the same ids. A batch of at least the threshold's size is
stored with relaxed settings. -/
def insert {β : Type} [Handing β] (s : Session) (around : Surroundings) (now : String)
    (interval : Nat) (batch : List β) : Session × Reply Failure Unit :=
  let (fresh, freshness) := s.freshness.consume
  let s := { s with freshness }
  if batch.isEmpty then (s, ⟨.ok (), []⟩)
  else
    let large := s.threshold ≤ batch.length
    if !s.isOpen then
      (s, ⟨.error (.engine .closed),
        if large then [.settingsUnknown EngineError.closed.message] else []⟩)
    else if large then s.storeRelaxed around now interval fresh batch
    else s.store around now interval fresh batch

/-- Empties the library. -/
def clear (s : Session) (around : Surroundings) : Session × Except Failure Unit :=
  if !s.isOpen then (s, .error (.engine .closed))
  else match (Library.clearAll ⟨around.locked, ""⟩).run s.library with
    | (.ok (), lib) => ({ (s.write lib).commit with freshness := .mark }, .ok ())
    | (.error e, lib) => ((s.write lib).rollback, .error e)

/-- The settings of the connection, unless it is closed. -/
def currentSettings (s : Session) : Except Failure Settings :=
  if s.isOpen then .ok s.settings else .error (.engine .closed)

/-- Counts the rows of all tables. -/
def counts (s : Session) : Except Failure Counts :=
  match s.opened >>= Library.counts with
  | .ok counts => .ok counts
  | .error e => .error (.engine e)

/-- The books that a filter selects. -/
def search (s : Session) (f : Filter) (engine : Engine := .lazy) : Except Failure (Page Book) := do
  (← Library.during .count s.opened).search f engine

/-- The books that a filter selects as it is handed over. -/
def searchGiven (s : Session) (g : GivenFilter) (engine : Engine := .lazy) :
    Except Failure (Page Book) := do
  (← Library.during .count s.opened).searchGiven g engine

/-- The book with an id. -/
def getBook (s : Session) (id : String) : Except Failure (Option Book) := do
  (← Library.during (.getBook id) s.opened).getBook id

/-- The book with an id as it is handed over. -/
def getGiven (s : Session) (id : Given) : Except Failure (Option Book) := do
  (← Library.during (.getBook id.text) s.opened).getGiven id

/-- One page of the names of a kind. -/
def list (s : Session) (kind : Kind) (limit offset : Int) : Except Failure (Page Named) := do
  (← Library.during (.list kind) s.opened).list kind limit offset

/-- The name with a number. If this fails, the number is reported. -/
def load (s : Session) (kind : Kind) (id : Int) : Except Failure (Option Named) :=
  ((Library.during (.load kind id) s.opened) >>= fun lib => lib.load kind id).mapError
    (Failure.reporting id)

/-- Opens a transaction that keeps other writers out. -/
def begin (s : Session) (around : Surroundings) : Session × Except Failure Unit :=
  if !s.isOpen then (s, .error (.engine .closed))
  else if s.draft.isSome then (s, .error (.engine .nestedTransaction))
  else if around.locked then (s, .error (.engine .locked))
  else ({ s with draft := some s.content }, .ok ())

/-- Undoes the changes of the open transaction, if there is one. -/
def undo (s : Session) : Session × Except Failure Unit :=
  if s.isOpen then (s.rollback, .ok ()) else (s, .error (.engine .closed))

/-- Drops the table of a name, inside the open transaction if there is one. -/
def drop (s : Session) (around : Surroundings) (name : String) : Session × Except Failure Unit :=
  match s.opened >>= fun lib => lib.dropNamed name with
  | .error e => (s, .error (.engine e))
  | .ok lib =>
    if around.locked then (s, .error (.engine .locked))
    else if s.draft.isSome then ({ s with draft := some lib }, .ok ())
    else ({ s with content := lib }, .ok ())

/-- Closes the connection; an open transaction is undone. -/
def close (s : Session) : Session :=
  { s.rollback with isOpen := false }

end Session

end BookCatalog
