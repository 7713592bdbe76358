import BookCatalog.Proofs.Search.Likeness
import BookCatalog.Proofs.Session.Content
import BookCatalog.Proofs.Session.Rebuild

/-!
# Runs that end alike

What a session stores depends on the submissions alone, and not on how they come or on what was
there before:

* `Log.insert_append`: a batch may be cut in two, and leaves the same rows (`Library.SameRows`).
* `Session.reindex_forgets`: what is rebuilt from an index file is the same whatever the library
  held, but for where the numbers of the names begin (`Session.Agrees`).

Both rest on plain storing (`Session.Holds.inserts`): the shortcuts of a batch do not show in the
tables.
-/

namespace BookCatalog

variable {s s' : Session} {shift : Shift} {around : Surroundings} {now : String} {interval : Nat}
  {batch ledger : List Submission} {file : Option IndexFile}

namespace Session

/-- The session sees what a run leaves, and it does not know more about the index. -/
structure Follows (s : Session) (log : Log) : Prop where
  library : s.library = log.session.library
  freshness : s.freshness.known = true → log.session.freshness.known = true

/-- A session that follows a run holds what is committed. -/
lemma Follows.holds {log : Log} (follows : s.Follows log) (faithful : log.Faithful) :
    s.Holds log.committed := by
  obtain ⟨ready, represents, fresh⟩ := faithful.holds
  rw [← follows.library] at ready represents
  exact { ready, represents, fresh := fun known => fresh (follows.freshness known) }

/-- An open session searches the library that it sees. -/
lemma search_of_isOpen (opened : s.isOpen = true) (f : Filter) :
    s.search f = s.library.search f := by
  rw [search, Session.opened, opened, if_pos rfl]
  rfl

/-! ## A batch -/

/-- A batch is stored exactly if it is empty, or the connection is open and all its submissions can
be stored. -/
lemma Holds.insert_ok_iff (holds : s.Holds ledger) (unlocked : around.locked = false) :
    (s.insert around now interval batch).2.outcome = .ok () ↔
      batch = [] ∨ s.isOpen = true ∧ ∀ b ∈ batch, b.Storable := by
  by_cases empty : batch = []
  case pos =>
    subst empty
    exact iff_of_true rfl (.inl rfl)
  case neg =>
    have inserts := s.insert_inserts around now interval batch
    generalize (s.insert around now interval batch).1 = after,
      (s.insert around now interval batch).2.outcome = outcome at inserts ⊢
    rw [or_iff_right empty]
    cases inserts with
    | nothing eq => exact absurd eq empty
    | closed closed => exact iff_of_false nofun fun stored => by simp [closed] at stored
    | stored opened ok =>
      have storable := (Library.insertAll_eq_ok holds.represents.sound holds.lacks ok).1
      exact iff_of_true rfl ⟨opened, storable⟩
    | undone opened _ failed =>
      refine iff_of_false nofun fun ⟨_, storable⟩ => ?_
      have fits : batch.all Submission.fits = true :=
        List.all_eq_true.2 fun b mem => (storable b mem).fits
      have ends : (s.batchResult around now interval batch).outcome = _ :=
        Library.insertAll_outcome unlocked holds.ready fun b mem => (storable b mem).toComplete
      rw [failed, fits] at ends
      cases ends

/-- A batch that is stored is held behind what was held before. -/
lemma Holds.insert (holds : s.Holds ledger)
    (ok : (s.insert around now interval batch).2.outcome = .ok ()) :
    s.Stores now batch (s.insert around now interval batch).1 ∧
      (s.insert around now interval batch).1.Holds (ledger ++ batch) := by
  have inserts := s.insert_inserts around now interval batch
  rw [ok] at inserts
  exact ⟨holds.inserts inserts, holds.after_inserts inserts⟩

section Append

variable {first second : List Submission} {around₁ around₂ : Surroundings} {now₁ now₂ : String}
  {interval₁ interval₂ : Nat}

/-- A batch is stored if its two parts are, one after the other. -/
lemma Holds.insert_append_ok_iff (holds : s.Holds ledger) (unlocked : around.locked = false)
    (unlocked₁ : around₁.locked = false) (unlocked₂ : around₂.locked = false) :
    (s.insert around now interval (first ++ second)).2.outcome = .ok () ↔
      (s.insert around₁ now₁ interval₁ first).2.outcome = .ok () ∧
        ((s.insert around₁ now₁ interval₁ first).1.insert around₂ now₂ interval₂
          second).2.outcome = .ok () := by
  rw [holds.insert_ok_iff unlocked, List.append_eq_nil_iff, List.forall_mem_append]
  by_cases ok : (s.insert around₁ now₁ interval₁ first).2.outcome = .ok ()
  case pos =>
    -- what the first part leaves does not matter for the second one
    obtain ⟨stores, between⟩ := holds.insert ok
    rw [between.insert_ok_iff unlocked₂, stores.isOpen, holds.insert_ok_iff unlocked₁]
    rw [holds.insert_ok_iff unlocked₁] at ok
    have none : second = [] → ∀ b ∈ second, b.Storable := by
      intro empty
      simp [empty]
    cases ok with
    | inl empty => simp [empty]
    | inr ok => tauto
  case neg =>
    rw [holds.insert_ok_iff unlocked₁] at ok ⊢
    tauto

/-- A batch leaves the same rows whether it is stored at once or in two parts. -/
lemma Holds.append_sameRows (holds : s.Holds ledger)
    (whole : (s.insert around now interval (first ++ second)).2.outcome = .ok ())
    (one : (s.insert around₁ now₁ interval₁ first).2.outcome = .ok ())
    (two : ((s.insert around₁ now₁ interval₁ first).1.insert around₂ now₂ interval₂
      second).2.outcome = .ok ()) :
    (s.insert around now interval (first ++ second)).1.library.SameRows
      ((s.insert around₁ now₁ interval₁ first).1.insert around₂ now₂ interval₂
        second).1.library := by
  obtain ⟨stores, -⟩ := holds.insert whole
  obtain ⟨stores₁, between⟩ := holds.insert one
  obtain ⟨stores₂, -⟩ := between.insert two
  rw [stores.library, stores₂.library, stores₁.library, Library.storedAll_append]
  have same : s.library.Agrees 0 s.library := Library.agrees_iff.2 rfl
  exact Library.agrees_zero ((same.storedAll now now₁ first).storedAll now now₂ second)

end Append

end Session

/-- A batch that is cut in two is stored exactly if both parts are, one after the other, and leaves
the same rows as these do. -/
theorem Log.insert_append (settings : Settings) (threshold : Int) (calls : List Call)
    (follows : s.Follows ((start settings threshold).run calls)) (shared shared₁ shared₂ : Bool)
    (now now₁ now₂ : String) (interval interval₁ interval₂ : Nat)
    (first second : List Submission) :
    let whole := s.insert { shared } now interval (first ++ second)
    let one := s.insert { shared := shared₁ } now₁ interval₁ first
    let two := one.1.insert { shared := shared₂ } now₂ interval₂ second
    (whole.2.outcome = .ok () ↔ one.2.outcome = .ok () ∧ two.2.outcome = .ok ()) ∧
      (whole.2.outcome = .ok () → whole.1.library.SameRows two.1.library) ∧
      (s.draft = none → whole.1.draft = none ∧ two.1.draft = none) := by
  intro whole one two
  have holds := follows.holds (faithful_run settings threshold calls)
  have both : whole.2.outcome = .ok () ↔ one.2.outcome = .ok () ∧ two.2.outcome = .ok () :=
    holds.insert_append_ok_iff rfl rfl rfl
  refine ⟨both, fun ok => ?_, fun settled => ⟨?_, ?_⟩⟩
  · obtain ⟨ok₁, ok₂⟩ := both.1 ok
    exact holds.append_sameRows ok ok₁ ok₂
  · exact (s.insert_inserts _ _ _ _).settled settled
  · exact (one.1.insert_inserts _ _ _ _).settled ((s.insert_inserts _ _ _ _).settled settled)

/-- A batch with two books that share an author and a series and have the same id is cut between
them. The index is known to be empty, and the two parts are smaller than the threshold. -/
theorem Log.shared_names_append :
    let s := ((start { journal := .memory } 2).run [.clear {}]).session
    let old : Submission :=
      { id := "b", title := some "Old", authors := some [some "Roe"], series := some "S" }
    let new : Submission :=
      { id := "b", title := some "New", authors := some [some "Doe", some "Roe"]
        series := some "S" }
    let one := s.insert {} "2024-01-01T00:00:00" defaultInterval [old]
    (s.insert {} "2024-01-02T00:00:00" defaultInterval [old, new]).1.library.SameRows
      (one.1.insert {} "2024-01-03T00:00:00" defaultInterval [new]).1.library := by
  intro s old new one
  have cut := insert_append { journal := .memory } 2 [.clear {}] (s := s)
    ⟨rfl, id⟩ false false false
    "2024-01-02T00:00:00" "2024-01-01T00:00:00" "2024-01-03T00:00:00" defaultInterval
    defaultInterval defaultInterval [old] [new]
  exact cut.2.1 (by decide +kernel)

namespace Session

/-! ## Rebuilding -/

/-- The connection is open, and all tables are there. -/
structure InOrder (s : Session) : Prop where
  opened : s.isOpen = true
  ready : s.library.Ready

/-- Two sessions see libraries that agree, and every search gives the same in them, up to what the
libraries need not agree in. -/
structure Agrees (shift : Shift) (s s' : Session) : Prop where
  library : s.library.Agrees shift s'.library
  found : ∀ f, (s'.search f).map (Page.map (Book.likeness 0)) =
    (s.search f).map (Page.map (Book.likeness shift))

/-- Sessions in order agree if the libraries that they see do. -/
lemma InOrder.agrees (order : s.InOrder) (order' : s'.InOrder)
    (library : s.library.Agrees shift s'.library) : s.Agrees shift s' := by
  refine { library, found := fun f => ?_ }
  rw [search_of_isOpen order.opened, search_of_isOpen order'.opened]
  exact library.search order.ready order'.ready f

/-- After a run a session is in order. -/
lemma inOrder_of_faithful {log : Log} (faithful : log.Faithful) : log.session.InOrder :=
  { opened := faithful.opened, ready := faithful.holds.ready }

/-- How rebuilding ends where nothing but the index file can be at fault. -/
def rebuildOutcome (file : Option IndexFile) : Except ReindexError Imported :=
  match readIndex file with
  | .error e => .error e
  | .ok inpx =>
    if inpx.books.all (·.submission.fits) then .ok ⟨inpx.books.length, inpx.collection⟩
    else .error (.library .integerTooLarge)

/-- Where a session is in order, rebuilding ends as the index file has it. -/
lemma InOrder.reindex_outcome (order : s.InOrder) (unlocked : around.locked = false) :
    (s.reindex around now interval file).2.outcome = rebuildOutcome file := by
  have rebuilds := s.reindex_rebuilds around now interval file
  generalize (s.reindex around now interval file).1 = after,
    (s.reindex around now interval file).2.outcome = outcome at rebuilds ⊢
  cases rebuilds with
  | unread read => simp only [rebuildOutcome, read]
  | notCleared read clear =>
    cases clears_of_eq clear with
    | closed closed => exact absurd order.opened (by simp [closed])
    | undone _ refused => exact absurd ⟨order.ready, unlocked⟩ refused
  | @notInserted inpx _ _ _ read clear inserts =>
    obtain ⟨overflows, rfl, -⟩ := refill_error read (clears_of_eq clear) inserts
    obtain ⟨inpx', read', b, mem, tooLarge⟩ := overflows.tooLarge
    cases read.symm.trans read'
    have some : inpx.books.all (·.submission.fits) = false :=
      List.all_eq_false.2 ⟨b, mem, by simp [tooLarge]⟩
    simp only [rebuildOutcome, read, some, Bool.false_eq_true, if_false]
  | @rebuilt inpx _ _ read clear inserts =>
    have storable := ((clears_of_eq clear).holds.1.inserts inserts).storable
    have all : inpx.books.all (·.submission.fits) = true :=
      List.all_eq_true.2 fun b mem => (storable _ (List.mem_map_of_mem mem)).fits
    simp only [rebuildOutcome, read, all, if_true]

/-- A library that has been rebuilt is what the books of the file make of an empty one. -/
lemma reindex_ok {imported : Imported}
    (ok : (s.reindex around now interval file).2.outcome = .ok imported) :
    ∃ inpx, readIndex file = .ok inpx ∧ (s.reindex around now interval file).1.InOrder ∧
      (s.reindex around now interval file).1.draft = none ∧
      (s.reindex around now interval file).1.library =
        s.library.emptied.storedAll now (inpx.books.map Entry.submission) := by
  have rebuilds := s.reindex_rebuilds around now interval file
  rw [ok] at rebuilds
  generalize (s.reindex around now interval file).1 = after at rebuilds ⊢
  cases rebuilds with
  | @rebuilt inpx _ _ read clear inserts =>
    obtain ⟨holds, library, opened⟩ := (clears_of_eq clear).holds
    have stores := holds.inserts inserts
    refine ⟨inpx, read, ⟨?_, (holds.after_inserts inserts).ready⟩, ?_, ?_⟩
    · rw [stores.isOpen, opened]
    · exact inserts.settled (clears_of_eq clear).settled
    · rw [stores.library, library]

/-- Two libraries that are rebuilt from the same file agree. -/
lemma reindex_agrees {s₁ s₂ : Session} {around₁ around₂ : Surroundings} {now₁ now₂ : String}
    {interval₁ interval₂ : Nat} {imported₁ imported₂ : Imported}
    (ok₁ : (s₁.reindex around₁ now₁ interval₁ file).2.outcome = .ok imported₁)
    (ok₂ : (s₂.reindex around₂ now₂ interval₂ file).2.outcome = .ok imported₂) :
    ∃ shift, (s₁.reindex around₁ now₁ interval₁ file).1.Agrees shift
      (s₂.reindex around₂ now₂ interval₂ file).1 := by
  obtain ⟨inpx, read₁, order₁, -, library₁⟩ := reindex_ok ok₁
  obtain ⟨inpx', read₂, order₂, -, library₂⟩ := reindex_ok ok₂
  cases read₁.symm.trans read₂
  have emptied := s₁.library.agrees_emptied s₂.library
  have agrees := emptied.storedAll now₁ now₂ (inpx.books.map Entry.submission)
  rw [← library₁, ← library₂] at agrees
  exact ⟨_, order₁.agrees order₂ agrees⟩

/-- Rebuilding forgets what was there. Whether it succeeds depends on the file alone, and two
libraries that are rebuilt from the same file agree, also if they are the same one. -/
theorem reindex_forgets {s₁ s₂ : Session} (order₁ : s₁.InOrder) (order₂ : s₂.InOrder)
    (file : Option IndexFile) (shared₁ shared₂ : Bool) (now₁ now₂ : String)
    (interval₁ interval₂ : Nat) :
    let first := s₁.reindex { shared := shared₁ } now₁ interval₁ file
    let second := s₂.reindex { shared := shared₂ } now₂ interval₂ file
    let again := first.1.reindex { shared := shared₂ } now₂ interval₂ file
    first.2.outcome = second.2.outcome ∧
      ∀ imported, first.2.outcome = .ok imported →
        first.1.draft = none ∧ second.1.draft = none ∧ (∃ shift, first.1.Agrees shift second.1) ∧
          again.2.outcome = .ok imported ∧ ∃ shift, first.1.Agrees shift again.1 := by
  intro first second again
  have ends₁ : first.2.outcome = rebuildOutcome file := order₁.reindex_outcome rfl
  have ends₂ : second.2.outcome = rebuildOutcome file := order₂.reindex_outcome rfl
  refine ⟨ends₁.trans ends₂.symm, fun imported ok => ?_⟩
  have ok₂ : second.2.outcome = .ok imported := ends₂.trans (ends₁.symm.trans ok)
  obtain ⟨-, -, order, settled₁, -⟩ := reindex_ok ok
  obtain ⟨-, -, -, settled₂, -⟩ := reindex_ok ok₂
  have ends : again.2.outcome = rebuildOutcome file := order.reindex_outcome rfl
  have ok' : again.2.outcome = .ok imported := ends.trans (ends₁.symm.trans ok)
  exact ⟨settled₁, settled₂, reindex_agrees ok ok₂, ok', reindex_agrees ok ok'⟩

/-- An index file with one book. -/
def newBookFile : IndexFile :=
  { path := "/library.inpx"
    source := .file (.ok
      [{ name := "x.inp"
         content := .ok ("Doe,Jane,:\x04sf\x04New\x04\x04\x04new\x04120\x04\x04\x04" ++
          "fb2\x042020-01-15\x04en\x04").toUTF8.toList }]) }

/-- A run that stores a book by another author. -/
def oldAuthor : Log :=
  (Log.start { journal := .memory } defaultThreshold).run
    [.insert {} "2024-01-01T00:00:00" defaultInterval
      [{ id := "old", title := some "Old", authors := some [some "Roe"] }]]

/-- What is rebuilt over another author agrees with what is rebuilt in a new library. -/
theorem old_author_forgotten :
    let new := (Log.start { journal := .memory } defaultThreshold).session
    let first := new.reindex {} "2024-01-02T00:00:00" defaultInterval (some newBookFile)
    let second :=
      oldAuthor.session.reindex {} "2024-01-03T00:00:00" defaultInterval (some newBookFile)
    oldAuthor.session.library.authors.lastId = 1 ∧ second.2.outcome = .ok ⟨1, none⟩ ∧
      ∃ shift, first.1.Agrees shift second.1 := by
  intro new first second
  have order₁ : new.InOrder := inOrder_of_faithful (Log.faithful_start _ _)
  have order₂ : oldAuthor.session.InOrder := inOrder_of_faithful (Log.faithful_run _ _ _)
  obtain ⟨same, agrees⟩ := reindex_forgets order₁ order₂ (some newBookFile) false false
    "2024-01-02T00:00:00" "2024-01-03T00:00:00" defaultInterval defaultInterval
  have ok : second.2.outcome = .ok ⟨1, none⟩ := by decide +kernel
  exact ⟨by decide +kernel, ok, (agrees _ (same.trans ok)).2.2.1⟩

end Session

end BookCatalog
