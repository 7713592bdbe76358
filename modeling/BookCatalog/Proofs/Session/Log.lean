import BookCatalog.Proofs.Session.Holding

/-!
# Runs of a session

A session that is the only one to write to its library makes one call after the other. Beside it, a
`Log` keeps the list of the submissions that were committed since the library was last emptied. The
central notions:

* `Log.run`: what a run leaves, whether its calls succeed or fail.
* `Log.Faithful`: the content of the library represents the committed submissions. It is true of a
  session on a new library, and every call keeps it (`Log.Faithful.step`), so it is true after every
  run (`Log.faithful_run`).
-/

namespace BookCatalog

/-- A call that changes a library. -/
inductive Call where
  | insert (around : Surroundings) (now : String) (interval : Nat) (batch : List Submission)
  | clear (around : Surroundings)
  | reindex (around : Surroundings) (now : String) (interval : Nat) (file : Option IndexFile)

/-- What is committed after a call: something new if the call succeeds, what was committed before if
it fails. -/
def ifOk {ε α : Type} (outcome : Except ε α) (new old : List Submission) : List Submission :=
  match outcome with
  | .ok _ => new
  | .error _ => old

namespace Session

/-- The session after a call. -/
def after (s : Session) : Call → Session
  | .insert around now interval batch => (s.insert around now interval batch).1
  | .clear around => (s.clear around).1
  | .reindex around now interval file => (s.reindex around now interval file).1

/-- The submissions that are committed after a call, if `ledger` was committed before. A call that
fails commits nothing, but rebuilding may fail after the library has been emptied. -/
def committed (s : Session) (ledger : List Submission) : Call → List Submission
  | .insert around now interval batch =>
    ifOk (s.insert around now interval batch).2.outcome (ledger ++ batch) ledger
  | .clear around => ifOk (s.clear around).2 [] ledger
  | .reindex around now interval file =>
    match readIndex file with
    | .error _ => ledger
    | .ok inpx =>
      let books := inpx.books.map Entry.submission
      ifOk (s.clear around).2 (ifOk (s.reindex around now interval file).2.outcome books []) ledger

end Session

/-- A session and the submissions that were committed since its library was last emptied. -/
structure Log where
  session : Session
  committed : List Submission := []

namespace Log

/-- A session on a new library. -/
def start (settings : Settings) (threshold : Int) : Log :=
  { session := { content := Library.fresh, settings, threshold } }

/-- One call. -/
def step (log : Log) (call : Call) : Log :=
  ⟨log.session.after call, log.session.committed log.committed call⟩

/-- One call after the other. -/
def run (log : Log) (calls : List Call) : Log :=
  calls.foldl step log

/-- No transaction is open, the content represents the committed submissions, and the index is known
to be empty only if nothing is committed. -/
structure Faithful (log : Log) : Prop where
  opened : log.session.isOpen = true
  settled : log.session.draft = none
  ready : log.session.content.Ready
  represents : log.session.content.Represents log.committed
  fresh : log.session.freshness.known = true → log.committed = []

variable {s s' : Session} {ledger batch : List Submission} {around : Surroundings} {now : String}
  {interval : Nat} {settings : Settings} {threshold : Int}

/-- A new library has its tables, and no rows in them. -/
lemma faithful_start (settings : Settings) (threshold : Int) :
    (start settings threshold).Faithful := by
  refine
    { opened := rfl
      settled := rfl
      ready := Library.ready_fresh
      represents := ?_
      fresh := nofun }
  show Library.fresh.Represents []
  rw [Library.fresh_eq]
  exact Library.represents_of_empty rfl rfl rfl rfl rfl rfl

/-- A session that is faithful to a ledger holds it. -/
lemma Faithful.holds (faithful : Faithful ⟨s, ledger⟩) : s.Holds ledger := by
  have library := Session.library_of_settled faithful.settled
  exact
    { ready := library ▸ faithful.ready
      represents := library ▸ faithful.represents
      fresh := faithful.fresh }

/-- A session that holds a ledger is faithful to it if it is open and in no transaction. -/
lemma faithful_of_holds (opened : s.isOpen = true) (settled : s.draft = none)
    (holds : s.Holds ledger) : Faithful ⟨s, ledger⟩ := by
  have library := Session.library_of_settled settled
  exact
    { opened, settled
      ready := library ▸ holds.ready
      represents := library ▸ holds.represents
      fresh := holds.fresh }

/-- A batch that is stored is committed, and one that is not leaves no trace. -/
lemma Faithful.inserts {outcome : Except Failure Unit} (faithful : Faithful ⟨s, ledger⟩)
    (inserts : s.Inserts around now interval batch s' outcome) :
    Faithful ⟨s', ifOk outcome (ledger ++ batch) ledger⟩ := by
  cases outcome with
  | ok =>
    have stores := faithful.holds.inserts inserts
    exact faithful_of_holds (stores.isOpen.trans faithful.opened) (inserts.settled faithful.settled)
      (faithful.holds.after_inserts inserts)
  | error e =>
    obtain ⟨opened, settled, ready, represents, fresh⟩ := faithful
    cases inserts with
    | closed => exact ⟨opened, settled, ready, represents, nofun⟩
    | undone => exact ⟨opened, rfl, ready, represents, nofun⟩

/-- An emptied library represents nothing, and its index is known to be empty. -/
lemma Faithful.clears {outcome : Except Failure Unit} (faithful : Faithful ⟨s, ledger⟩)
    (clears : s.Clears around s' outcome) : Faithful ⟨s', ifOk outcome [] ledger⟩ := by
  cases outcome with
  | ok =>
    obtain ⟨holds, -, opened⟩ := clears.holds
    exact faithful_of_holds opened clears.settled holds
  | error e =>
    obtain ⟨opened, settled, ready, represents, fresh⟩ := faithful
    cases clears with
    | closed => exact ⟨opened, settled, ready, represents, fresh⟩
    | undone => exact ⟨opened, rfl, ready, represents, fresh⟩

/-- Every call keeps a log faithful, whether it succeeds or fails. -/
theorem Faithful.step {log : Log} (faithful : log.Faithful) (call : Call) :
    (log.step call).Faithful := by
  cases call with
  | insert around now interval batch =>
    exact faithful.inserts (log.session.insert_inserts around now interval batch)
  | clear around => exact faithful.clears (log.session.clear_clears around)
  | reindex around now interval file =>
    have rebuilds := log.session.reindex_rebuilds around now interval file
    simp only [Log.step, Session.after, Session.committed]
    generalize (log.session.reindex around now interval file).1 = after,
      (log.session.reindex around now interval file).2.outcome = outcome at rebuilds ⊢
    cases rebuilds with
    | unread read =>
      rw [read]
      exact faithful
    | notCleared read clear =>
      rw [read, clear]
      exact faithful.clears (Session.clears_of_eq clear)
    | notInserted read clear inserts =>
      rw [read, clear]
      exact (faithful.clears (Session.clears_of_eq clear)).inserts inserts
    | rebuilt read clear inserts =>
      rw [read, clear]
      exact (faithful.clears (Session.clears_of_eq clear)).inserts inserts

/-- Every run from a new library keeps its log faithful. -/
theorem faithful_run (settings : Settings) (threshold : Int) (calls : List Call) :
    ((start settings threshold).run calls).Faithful := by
  suffices all : ∀ log : Log, log.Faithful → (log.run calls).Faithful from
    all _ (faithful_start settings threshold)
  induction calls with
  | nil => exact fun _ faithful => faithful
  | cons call rest ih => exact fun log faithful => ih _ (faithful.step call)

end Log

end BookCatalog
