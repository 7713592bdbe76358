import BookCatalog.Proofs.Library.Accepting
import BookCatalog.Proofs.Workspace.Atomic

/-!
# Which batches are accepted

As long as nobody else writes, a batch of books is stored exactly if all their values can be bound,
whatever is in the library, whoever has put it there, and however large the batch is
(`Session.insert_obstacle`). Everything else that the tables demand is met by the way in which a
book is stored. If the texts are of characters, only integers are in the way
(`Workspace.entries_accepted`), and a text with half of a pair is refused as well
(`Workspace.half_refused`).
-/

namespace BookCatalog

/-- Listed books lack nothing when they are handed over, and their texts are of characters. -/
lemma Entry.forall_handed {entries : List Entry} :
    ∀ h ∈ entries.map fun e => e.submission.handed, h.submission.Complete ∧ h.Encodable := by
  intro h mem
  obtain ⟨e, -, rfl⟩ := List.mem_map.1 mem
  rw [Submission.submission_handed]
  exact ⟨e.complete_submission, e.submission.encodable_handed⟩

namespace Handed

/-- All integers of a book have 64 bits. -/
def Representable (h : Handed) : Prop :=
  ∀ n ∈ [h.seriesNum, h.year, h.fileSize, h.rating].reduceOption, -2 ^ 63 ≤ n ∧ n ≤ 2 ^ 63 - 1

instance (h : Handed) : Decidable h.Representable :=
  inferInstanceAs (Decidable (∀ _ ∈ _, _))

/-- The integers of a book fit their columns if they have 64 bits. -/
lemma fits_iff {h : Handed} : h.submission.fits = true ↔ h.Representable := by
  rw [h.fits_submission, List.all_eq_true]
  simp only [Representable, List.reduceOption_mem_iff, Option.all_eq_true, fitsColumn,
    Bool.and_eq_true, decide_eq_true_eq]
  exact ⟨fun all n mem => all _ mem n rfl, fun all n mem m own => all m (own ▸ mem)⟩

/-- Nothing but an integer keeps a book from being stored whose texts are of characters. -/
lemma Encodable.obstacle?_eq {h : Handed} (encodable : h.Encodable) :
    h.obstacle? = if h.Representable then none else some .integerTooLarge := by
  have plain := obstacle?_handed h.submission
  rw [handed_submission encodable] at plain
  simp only [plain, fits_iff]

end Handed

namespace Session

variable {s s' : Session} {around : Surroundings} {now : String} {interval : Nat} {β : Type}
  [Handing β] {batch : List β} {outcome : Except Failure Unit}

/-- Over an open connection storing a batch ends as the batch does. -/
lemma Inserts.outcome_eq (inserts : s.Inserts around now interval batch s' outcome)
    (opened : s.isOpen = true) : outcome = (s.batchResult around now interval batch).outcome := by
  cases inserts with
  | nothing empty =>
    subst empty
    rfl
  | closed closed =>
    rw [opened] at closed
    cases closed
  | stored _ ok => exact ok.symm
  | undone _ _ failed => exact failed.symm

/-- An open connection accepts a batch of books that lack nothing unless a value cannot be bound,
and the first such value decides how the batch fails. -/
theorem insert_obstacle (opened : s.isOpen = true) (ready : s.library.Ready)
    (unlocked : around.locked = false) (now : String) (interval : Nat) {batch : List Handed}
      (complete : ∀ h ∈ batch, h.submission.Complete) :
    (s.insert around now interval batch).2.outcome =
      (batch.findSome? Handed.obstacle?).elim (.ok ()) .error := by
  rw [(s.insert_inserts around now interval _).outcome_eq opened]
  exact Library.insertAll_obstacle unlocked ready complete

/-- An open connection accepts a batch of books of characters if all of them are representable. -/
lemma insert_entries (opened : s.isOpen = true) (ready : s.library.Ready)
    (unlocked : around.locked = false) (now : String) (interval : Nat) {entries : List Handed}
      (complete : ∀ h ∈ entries, h.submission.Complete)
    (encodable : ∀ h ∈ entries, h.Encodable) :
    (s.insert around now interval entries).2.outcome =
      if ∀ h ∈ entries, h.Representable then .ok () else .error .integerTooLarge := by
  rw [insert_obstacle opened ready unlocked now interval complete]
  clear complete
  induction entries with
  | nil => rfl
  | cons h rest ih =>
    obtain ⟨first, others⟩ := List.forall_mem_cons.1 encodable
    rw [List.findSome?_cons, first.obstacle?_eq]
    simp only [List.forall_mem_cons]
    by_cases own : h.Representable
    · simpa only [own, if_true, true_and] using ih others
    · simp only [own, if_false, false_and, Option.elim_some]

end Session

namespace Workspace

variable {w : Workspace} {catalog : Nat} {p : Place}

/-- A batch of entries whose texts are of characters is stored if all their integers have 64 bits,
and is refused because of an integer otherwise. -/
theorem entries_accepted (placed : w.place? catalog = some p) (opened : p.session.isOpen = true)
    (ready : p.session.library.Ready) (unlocked : p.around.locked = false) (now : String)
    (interval : Nat) (entries : List Handed)
    (complete : ∀ h ∈ entries, h.submission.Complete)
    (encodable : ∀ h ∈ entries, h.Encodable) :
    ∃ w' reply,
      w.call catalog (fun s around => s.insert around now interval entries) = some (w', reply) ∧
      (reply.outcome = .ok () ↔ ∀ h ∈ entries, h.Representable) ∧
      (¬(∀ h ∈ entries, h.Representable) → reply.outcome = .error .integerTooLarge) := by
  have ends := p.session.insert_entries opened ready unlocked now interval complete encodable
  refine ⟨_, _, by rw [call, placed, Option.map_some], ?_, fun tooLarge => ?_⟩
  · rw [ends]
    split
    case isTrue all => exact iff_of_true rfl all
    case isFalse tooLarge => exact iff_of_false (by simp) tooLarge
  · rw [ends, if_neg tooLarge]

/-- Two connections to the library in a file; over the second one a book has been stored. For the
catalog on the first one any batch counts as large. -/
def secondWriter : Workspace :=
  let first := (({} : Workspace).connect false).1.addCatalog 0 0
  let both := (first.1.connect false).1.addCatalog 1 defaultThreshold
  let stored := both.1.call 1 fun s around => s.insert around "2024-01-01T00:00:00" defaultInterval
    [{ id := "a", title := some "A", series := some "S", authors := some [some "Ann"] }]
  (stored.map Prod.fst).getD {}

/-- The first catalog is open, its tables are there, and nobody else writes. -/
lemma secondWriter_place :
    ∃ p, secondWriter.place? 0 = some p ∧ p.session.isOpen = true ∧ p.session.library.Ready ∧
      p.around.locked = false := by
  obtain ⟨p, placed, state⟩ := Option.map_eq_some_iff.1
    (show (secondWriter.place? 0).map (fun p =>
        (p.session.isOpen, Library.clearOrder.all p.session.library.hasTable, p.around.locked)) =
      some (true, true, false) by decide +kernel)
  simp only [Prod.mk.injEq, List.all_eq_true] at state
  exact ⟨p, placed, state⟩

/-- Names that the other connection has created, a book that comes twice, empty texts and the
largest integers do no harm. -/
theorem repeated_entry_accepted :
    let entries : List Entry :=
      [{ id := "b", title := "", series := "S", authors := ["Ann", "", "Ann"]
         fileSize := 2 ^ 63 - 1, rating := -2 ^ 63 },
       { id := "b", title := "T", series := "S", genre := "S", authors := ["S"] }]
    ∃ w' reply, secondWriter.call 0 (fun s around =>
        s.insert around "2024-01-02T00:00:00" defaultInterval
          (entries.map fun e => e.submission.handed)) = some (w', reply) ∧
      reply.outcome = .ok () := by
  intro entries
  obtain ⟨p, placed, opened, ready, unlocked⟩ := secondWriter_place
  obtain ⟨w', reply, called, accepted, -⟩ :=
    entries_accepted placed opened ready unlocked "2024-01-02T00:00:00" defaultInterval _
      (fun h mem => (Entry.forall_handed h mem).1) (fun h mem => (Entry.forall_handed h mem).2)
  exact ⟨w', reply, called, accepted.2 (by decide)⟩

/-- A title that is half of a pair, U+DCFF, is refused, small as all integers are, and not because
of an integer. -/
theorem half_refused :
    let h : Handed := { id := .ofText "b", title := some ⟨[.half 0x4FF]⟩ }
    h.submission.Complete ∧ h.Representable ∧
      ∃ p, secondWriter.place? 0 = some p ∧ p.session.isOpen = true ∧ p.session.library.Ready ∧
        p.around.locked = false ∧
        ∃ w' reply, secondWriter.call 0 (fun s around =>
            s.insert around "2024-01-02T00:00:00" defaultInterval [h]) = some (w', reply) ∧
          reply.outcome = .error (.notUtf8 ⟨0, 0x4FF, 0⟩) := by
  intro h
  have complete : h.submission.Complete := ⟨⟨_, rfl⟩, ⟨[], rfl⟩⟩
  obtain ⟨p, placed, opened, ready, unlocked⟩ := secondWriter_place
  refine ⟨complete, by decide, p, placed, opened, ready, unlocked, _, _, by
    rw [call, placed, Option.map_some], ?_⟩
  have ends := p.session.insert_obstacle opened ready unlocked "2024-01-02T00:00:00" defaultInterval
    (List.forall_mem_singleton.2 complete)
  exact ends.trans (by decide +kernel)

end Workspace

end BookCatalog
