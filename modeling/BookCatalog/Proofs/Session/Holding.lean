import BookCatalog.Proofs.Library.Ledger
import BookCatalog.Proofs.Session.Steps

/-!
# What a session holds

`Session.Holds` relates what a session sees to a ledger of submissions, and its knowledge about the
index too. A batch that is stored is added to the ledger (`Session.Holds.after_inserts`), and
emptying the library empties the ledger (`Session.Clears.holds`).
-/

namespace BookCatalog.Session

variable {s s' : Session} {around : Surroundings} {now : String} {interval : Nat}
  {batch ledger : List Submission}

/-- The tables are all there and represent a ledger, which is empty if the index is known to be
empty. -/
structure Holds (s : Session) (ledger : List Submission) : Prop where
  ready : s.library.Ready
  represents : s.library.Represents ledger
  fresh : s.freshness.known = true → ledger = []

/-- Where the index is known to be empty, nothing belongs to any book. -/
lemma Holds.lacks (holds : s.Holds ledger) (known : s.freshness.known = true) (id : String) :
    s.library.Lacks id := by
  have represents := holds.represents
  rw [holds.fresh known] at represents
  exact represents.lacks id

/-- What a session is after a batch has been stored. -/
structure Stores (s : Session) (now : String) (batch : List Submission) (s' : Session) : Prop where
  storable : ∀ b ∈ batch, b.Storable
  library : s'.library = s.library.storedAll now batch
  isOpen : s'.isOpen = s.isOpen

/-- Whether or not deletions are skipped and settings relaxed, a batch that succeeds is stored
plainly. -/
lemma Holds.inserts (holds : s.Holds ledger)
    (inserts : s.Inserts around now interval batch s' (.ok ())) : s.Stores now batch s' := by
  cases inserts with
  | nothing empty =>
    subst empty
    exact { storable := by simp, library := rfl, isOpen := rfl }
  | stored _ ok =>
    obtain ⟨storable, tables⟩ := Library.insertAll_eq_ok holds.represents.sound holds.lacks ok
    exact { storable, library := tables, isOpen := rfl }

/-- A batch that is stored is added to what a session holds. -/
lemma Holds.after_inserts (holds : s.Holds ledger)
    (inserts : s.Inserts around now interval batch s' (.ok ())) : s'.Holds (ledger ++ batch) := by
  obtain ⟨storable, library, -⟩ := holds.inserts inserts
  obtain ⟨represents, objects⟩ := holds.represents.storedAll storable now
  rw [← library] at represents objects
  refine { ready := holds.ready.of_objects objects, represents, fresh := ?_ }
  cases inserts <;> exact nofun

/-- Storing a batch leaves no transaction open. -/
lemma Inserts.settled {outcome : Except Failure Unit} (settled : s.draft = none)
    (inserts : s.Inserts around now interval batch s' outcome) : s'.draft = none := by
  cases inserts with
  | nothing => exact settled
  | closed => exact settled
  | stored => rfl
  | undone => rfl

/-- An emptied library holds nothing. -/
lemma Clears.holds (clears : s.Clears around s' (.ok ())) :
    s'.Holds [] ∧ s'.library = s.library.emptied ∧ s'.isOpen = true := by
  cases clears with
  | emptied opened ready =>
    exact ⟨⟨ready.of_objects rfl, Library.represents_emptied _, fun _ => rfl⟩, rfl, opened⟩

/-- Emptying a library leaves no transaction open. -/
lemma Clears.settled (clears : s.Clears around s' (.ok ())) : s'.draft = none := by
  cases clears
  rfl

end BookCatalog.Session
