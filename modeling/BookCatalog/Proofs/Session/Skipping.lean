import BookCatalog.Proofs.Library.Accepting
import BookCatalog.Proofs.Session.Holding

/-!
# Skipping what is not needed

Right after a library has been emptied there is nothing to delete for the books of a batch, and the
deletions are skipped. This changes nothing at all, whatever the batch is and wherever it fails. The
central notions:

* `Library.run_insert_fresh`: one book, in a library that has nothing that belongs to it.
* `Library.insertRest_fresh`: the rest of a batch. What carries it is `Batch.Consistent`, by which
  only ids that the batch has met are in the tables.
* `Session.clear_insert`: a batch right after emptying the library, and the same batch after an
  empty one has used up what is known about the index.
-/

namespace BookCatalog

namespace Transaction

variable {α β : Type} {lib after : Library}

/-- Behind a first part that succeeds the second one runs. -/
lemma run_bind_of_ok {t : Transaction α} {a : α} (ran : t.run lib = (.ok a, after))
    (f : α → Transaction β) : (t >>= f).run lib = (f a).run after := by
  rw [run_bind, ran]

/-- Two sequences that begin alike run alike, if they go on alike from wherever the beginning
leads. -/
lemma run_bind_congr {t : Transaction α} {f g : α → Transaction β}
    (same : ∀ a after, t.run lib = (.ok a, after) → (f a).run after = (g a).run after) :
    (t >>= f).run lib = (t >>= g).run lib := by
  rw [run_bind, run_bind]
  split
  case h_1 ran => exact same _ _ ran
  case h_2 => rfl

/-- A statement that would change nothing may be skipped. -/
lemma run_skipIf {t : Transaction Unit} (idle : t.run lib = (.ok (), lib)) (needless : Bool) :
    (skipIf needless t).run lib = (.ok (), lib) := by
  cases needless with
  | true => rfl
  | false => exact idle

end Transaction

namespace Library

open Transaction

variable {lib : Library} {ctx : WriteContext} {known : KnownNames}
  {interval total : Nat} {batch : Batch} {s : Submission} {bookId : String}

/-- A change of rows that changes nothing leaves everything as it is. -/
lemma run_changeRows_idle {t : Table} {f : Library → Library} (action : Action)
    (ready : lib.Ready) (mem : t ∈ clearOrder) (idle : f lib = lib) :
    (change action (changeRows t f)).run lib = (.ok (), lib) := by
  refine run_change_eq_ok.2 ?_
  rw [changeRows, needWritable_ready ready mem, idle]
  rfl

/-- So does deleting authors where there are none. -/
lemma run_removeLinks (action : Action) (ready : lib.Ready)
    (none : ∀ l ∈ lib.links, l.bookId ≠ bookId) :
    (change action (removeLinks bookId)).run lib = (.ok (), lib) :=
  run_changeRows_idle action ready (by decide) (withoutLinks_eq_self none)

/-- So does deleting index rows where there are none. -/
lemma run_removeIndexed (action : Action) (ready : lib.Ready)
    (none : ∀ row ∈ lib.index, row.bookId ≠ bookId) :
    (change action (removeIndexed bookId)).run lib = (.ok (), lib) :=
  run_changeRows_idle action ready (by decide) (by rw [index_filter_eq_self none])

/-- Where nothing belongs to a book, it makes no difference if the deletions are skipped. -/
theorem run_insert_fresh (ready : lib.Ready) (valid : known.Valid lib) (lacks : lib.Lacks s.id)
    (fresh : Bool) :
    (insert ctx fresh known s).run lib = (insert ctx false known s).run lib := by
  rw [insert_eq, insert_eq]
  -- up to the row of the book, nothing is skipped
  refine run_bind_congr fun ⟨seriesId, known1⟩ lib1 series => ?_
  obtain ⟨eq1, -, valid1⟩ := resolve?_eq_ok valid series
  refine run_bind_congr fun ⟨genreId, known2⟩ lib2 genre => ?_
  obtain ⟨eq2, -, valid2⟩ := resolve?_eq_ok valid1 genre
  refine run_bind_congr fun _ lib3 written => ?_
  obtain ⟨-, b, -, eq3⟩ := writeBook_eq_ok written
  have objects3 : lib3.objects = lib.objects := by rw [eq3, eq2, eq1]; simp
  have index3 : lib3.index = lib.index := by rw [eq3, eq2, eq1]; simp
  have links3 : ∀ l ∈ lib3.links, l.bookId ≠ s.id := by
    intro l mem
    rw [eq3] at mem
    have mem := (putBook_links_sublist lib2 b).subset mem
    rw [eq2, eq1, withName?_links, withName?_links] at mem
    exact lacks.links l mem
  have unlinked := run_removeLinks (.insertBook s.id) (ready.of_objects objects3) links3
  rw [run_bind_of_ok (run_skipIf unlinked fresh), run_bind_of_ok (run_skipIf unlinked false)]
  -- the authors are no rows of the index
  cases s.authors with
  | none => rfl
  | some authors =>
    refine run_bind_congr fun known5 lib5 linked => ?_
    have valid3 : known2.Valid lib3 := valid2.of_names fun kind => by rw [eq3, putBook_names]
    obtain ⟨eq5, -⟩ := addAuthors_eq_ok valid3 linked
    have objects5 : lib5.objects = lib.objects := by rw [eq5, withAuthors_objects, objects3]
    have index5 : ∀ row ∈ lib5.index, row.bookId ≠ s.id := by
      rw [eq5, withAuthors_index, index3]
      exact lacks.index
    have removed := run_removeIndexed (.insertBook s.id) (ready.of_objects objects5) index5
    rw [run_bind_of_ok (run_skipIf removed fresh), run_bind_of_ok (run_skipIf removed false)]

/-- It makes no difference to the rest of a batch if the deletions are skipped for the ids that it
has not met yet. -/
theorem insertRest_fresh (ready : batch.tables.Ready) (consistent : batch.Consistent true)
    (rest : List Submission) :
    insertRest ctx interval total true batch rest =
      insertRest ctx interval total false batch rest := by
  induction rest generalizing batch with
  | nil => rfl
  | cons s rest ih =>
    have same : (insert ctx (batch.isNew true s.id) batch.known s).run batch.tables =
        (insert ctx (batch.isNew false s.id) batch.known s).run batch.tables := by
      cases new : batch.isNew true s.id with
      | false => rfl
      | true => exact run_insert_fresh ready consistent.known (consistent.lacks_of_isNew new) true
    rw [insertRest_cons, insertRest_cons, same]
    split
    case h_1 => rfl
    case h_2 known after stored =>
      -- the book is stored plainly, so that the batch stays consistent
      rw [← same] at stored
      obtain ⟨storable, rfl, valid⟩ :=
        run_insert_eq_ok consistent.known consistent.lacks_of_isNew stored
      have gains := stored_gains consistent.sound storable ctx.now
      exact ih (ready.of_objects gains.objects) (consistent.advance gains valid)

end Library

namespace Session

variable {s cleared : Session} {around : Surroundings}

/-- A session that holds nothing stores a batch in the same way whatever it knows about the
index. -/
theorem Holds.insert_fresh (holds : s.Holds []) (around : Surroundings) (now : String)
    (interval : Nat) (batch : List Submission) :
    s.insert around now interval batch =
      ({ s with freshness := ⟨false⟩ } : Session).insert around now interval batch := by
  have stored : ∀ fresh, s.library.insertAll ⟨around.locked, now⟩ interval fresh batch =
      s.library.insertAll ⟨around.locked, now⟩ interval false batch := by
    intro fresh
    cases fresh with
    | false => rfl
    | true =>
      exact Library.insertRest_fresh holds.ready
        ⟨KnownNames.valid_nil _, fun _ id _ => holds.represents.lacks id,
          holds.represents.sound⟩ batch
  have same : ∀ settings, ({ s with freshness := ⟨false⟩, settings } : Session).store around now
        interval s.freshness.known batch =
      ({ s with freshness := ⟨false⟩, settings } : Session).store around now interval
        false batch := by
    intro settings
    have seen : ({ s with freshness := ⟨false⟩, settings } : Session).library = s.library := rfl
    rw [store, store, seen, stored]
  simp only [Session.insert, Freshness.consume, storeRelaxed, same]

/-- After a library has been emptied, a batch does the same whether the catalog still knows that the
index is empty or has used up this knowledge on an empty batch: it gives the same answer and leaves
the same session. -/
theorem clear_insert (ok : s.clear around = (cleared, .ok ())) (around₁ around₂ : Surroundings)
    (now₁ now₂ : String) (interval₁ interval₂ : Nat) (batch : List Submission) :
    let used := (cleared.insert around₁ now₁ interval₁ []).1
    cleared.freshness.known = true ∧ used.freshness.known = false ∧
      used.library = cleared.library ∧
      cleared.insert around₂ now₂ interval₂ batch = used.insert around₂ now₂ interval₂ batch := by
  intro used
  have clears := clears_of_eq ok
  obtain ⟨holds, -, -⟩ := clears.holds
  refine ⟨?_, rfl, rfl, holds.insert_fresh around₂ now₂ interval₂ batch⟩
  cases clears
  rfl

/-- A batch that has a book twice, with authors who are named twice or not at all. -/
def repeatedBook : List Submission :=
  [{ id := "b", title := some "Old tale", authors := some [some "Ann", some "", some "Ann"] },
    { id := "b", title := some "New tale", authors := some [some "Ann"] }]

/-- Both ways, one row of a book that comes twice is left in the index, and its author is linked
once. -/
theorem repeated_book_stored_alike :
    let s : Session :=
      { content := Library.fresh
        settings := { journal := .memory }
        threshold := defaultThreshold }
    let cleared := (s.clear {}).1
    let used := (cleared.insert {} "2024-01-01T00:00:00" defaultInterval []).1
    let after := (cleared.insert {} "2024-01-02T00:00:00" defaultInterval repeatedBook).1
    s.clear {} = (cleared, .ok ()) ∧
      after = (used.insert {} "2024-01-02T00:00:00" defaultInterval repeatedBook).1 ∧
      after.library.index.map (·.texts.title) = [some "New tale"] ∧
      after.library.links = [⟨"b", 1⟩] := by
  intro s cleared used after
  have ok : s.clear {} = (cleared, .ok ()) := Prod.ext rfl (by decide +kernel)
  obtain ⟨-, -, -, same⟩ := clear_insert ok {} {} "2024-01-01T00:00:00" "2024-01-02T00:00:00"
    defaultInterval defaultInterval repeatedBook
  exact ⟨ok, congrArg Prod.fst same, by decide +kernel, by decide +kernel⟩

end Session

end BookCatalog
