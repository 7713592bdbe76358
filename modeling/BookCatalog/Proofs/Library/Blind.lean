import BookCatalog.Proofs.Library.Ledger

/-!
# Storing without deleting

What a batch leaves in the index if the deletions are skipped though there may be something to
delete. The central notions:

* `Transaction.Keeps`: statements that leave a part of the tables alone.
* `rowsAfter`: how many index rows a book has after a batch. A deletion is skipped only for the
  first submission with an id, so that a second one puts things right
  (`Library.count_indexIds_insertAll`).
-/

namespace BookCatalog

/-- How many index rows a book has after a batch with a number of submissions of it, if it had
`before` rows. If the batch is stored blindly, nothing is deleted for the first of them. -/
def rowsAfter (blind : Bool) (before : Nat) : Nat → Nat
  | 0 => before
  | 1 => if blind then before + 1 else 1
  | _ + 2 => 1

@[simp] lemma rowsAfter_zero (blind : Bool) (before : Nat) : rowsAfter blind before 0 = before :=
    rfl

/-- The first submission leaves one row, or one more if nothing is deleted, and the others follow.
-/
lemma rowsAfter_succ (blind : Bool) (before stored : Nat) :
    rowsAfter blind before (stored + 1) =
      rowsAfter false (if blind then before + 1 else 1) stored := by
  match stored with
  | 0 => rfl
  | 1 => rfl
  | _ + 2 => rfl

namespace Transaction

variable {α β σ : Type} {view : Library → σ} {action : Action}

/-- Statements that leave a part of the tables as it is, where they succeed. -/
def Keeps (view : Library → σ) (t : Transaction α) : Prop :=
  ∀ lib a after, t.run lib = (.ok a, after) → view after = view lib

/-- What changes nothing leaves everything alone. -/
lemma keeps_pure (a : α) : (pure a : Transaction α).Keeps view := by
  intro lib a' after ran
  cases ran
  rfl

/-- A sequence leaves alone what its parts leave alone. -/
lemma Keeps.bind {t : Transaction α} {f : α → Transaction β} (first : t.Keeps view)
    (rest : ∀ a, (f a).Keeps view) : (t >>= f).Keeps view := by
  intro lib b after ran
  obtain ⟨a, between, ran, ran'⟩ := run_bind_eq_ok.1 ran
  exact (rest a between b after ran').trans (first lib a between ran)

/-- A statement leaves alone what it gives back unchanged. -/
lemma keeps_execute {statement : Library → Except EngineError (α × Library)}
    (keep : ∀ lib a after, statement lib = .ok (a, after) → view after = view lib) :
    (execute action statement).Keeps view :=
  fun lib a after ran => keep lib a after (run_execute_eq_ok.1 ran)

/-- A change leaves alone what it gives back unchanged. -/
lemma keeps_change {statement : Library → Except EngineError Library}
    (keep : ∀ lib after, statement lib = .ok after → view after = view lib) :
    (change action statement).Keeps view :=
  fun lib () after ran => keep lib after (run_change_eq_ok.1 ran)

/-- So does a statement that may be skipped. -/
lemma Keeps.skipIf {t : Transaction Unit} (keeps : t.Keeps view) (needless : Bool) :
    (skipIf needless t).Keeps view := by
  cases needless with
  | true => exact keeps_pure ()
  | false => exact keeps

/-- So do statements for each item of a list. -/
lemma keeps_foldlM {f : β → α → Transaction β} (step : ∀ b a, (f b a).Keeps view) (as : List α)
    (b : β) : (as.foldlM f b).Keeps view := by
  induction as generalizing b with
  | nil => exact keeps_pure b
  | cons a as ih =>
    rw [List.foldlM_cons]
    exact (step b a).bind ih

end Transaction

namespace Library

open Transaction

variable {lib after : Library} {ctx : WriteContext} {action : Action} {known known' : KnownNames}
  {fresh : Bool} {s : Submission}

def bookIds (lib : Library) : List String :=
  lib.books.map (·.id)

/-- The ids that the rows of the index belong to. -/
def indexIds (lib : Library) : List String :=
  lib.index.map (·.bookId)

/-- The books and the index, by their ids. -/
def shelf (lib : Library) : List String × List String :=
  (lib.bookIds, lib.indexIds)

/-! ## A book -/

/-- Looking up or adding a name leaves the books and the index alone. -/
lemma resolve?_keeps (kind : Kind) (name : Option String) :
    (resolve? ctx action known kind name).Keeps shelf := by
  unfold resolve?
  split
  case h_1 => exact keeps_pure _
  case h_2 => exact keeps_pure _
  case h_3 name _ =>
    apply Keeps.bind _ fun _ => keeps_pure _
    rw [resolve]
    split
    case h_1 => exact keeps_pure _
    case h_2 =>
      apply Keeps.bind _ fun _ => keeps_pure _
      apply keeps_execute
      intro lib id after named
      rw [(nameId_eq_ok named).1]
      simp [shelf, bookIds, indexIds]

/-- Adding an author leaves the books and the index alone. -/
lemma addAuthor_keeps (bookId : String) (known : KnownNames) (name : Option String) :
    (addAuthor ctx bookId known name).Keeps shelf := by
  apply (resolve?_keeps .authors name).bind
  rintro ⟨id, known⟩
  cases id with
  | none => exact keeps_pure _
  | some id =>
    apply Keeps.bind _ fun _ => keeps_pure _
    apply keeps_change
    intro lib after added
    rw [addLink_eq_ok added]
    simp [shelf, bookIds, indexIds]

/-- Deleting the authors of a book leaves the books and the index alone. -/
lemma removeLinks_keeps (bookId : String) : (change action (removeLinks bookId)).Keeps shelf := by
  apply keeps_change
  intro lib after removed
  rw [changeRows_eq_ok removed]
  rfl

/-- A book that is written comes last, in the place of the one with its id. -/
lemma shelf_putBook (lib : Library) (b : StoredBook) :
    (lib.putBook b).shelf = (lib.bookIds.filter (· ≠ b.id) ++ [b.id], lib.indexIds) := by
  have moved : (lib.putBook b).bookIds = lib.bookIds.filter (· ≠ b.id) ++ [b.id] := by
    rw [bookIds, putBook_books, List.map_append, map_filter_ne]
    rfl
  rw [shelf, moved, indexIds, putBook_index]
  rfl

/-- A stored book stands at the end of the books and of the index, and where the deletion is skipped
its index rows are still there. -/
theorem shelf_insert (ok : (insert ctx fresh known s).run lib = (.ok known', after)) :
    after.shelf = (lib.bookIds.filter (· ≠ s.id) ++ [s.id],
      (if fresh then lib.indexIds else lib.indexIds.filter (· ≠ s.id)) ++ [s.id]) := by
  rw [insert_eq] at ok
  obtain ⟨⟨seriesId, known1⟩, lib1, series, ok1⟩ := run_bind_eq_ok.1 ok
  obtain ⟨⟨genreId, known2⟩, lib2, genre, ok2⟩ := run_bind_eq_ok.1 ok1
  obtain ⟨_, lib3, written, ok3⟩ := run_bind_eq_ok.1 ok2
  obtain ⟨_, lib4, unlinked, ok4⟩ := run_bind_eq_ok.1 ok3
  -- up to the row of the book, only names have been stored
  have shelf2 : lib2.shelf = lib.shelf :=
    (resolve?_keeps _ _ _ _ _ genre).trans (resolve?_keeps _ _ _ _ _ series)
  have books2 : lib2.bookIds = lib.bookIds := congrArg Prod.fst shelf2
  have index2 : lib2.indexIds = lib.indexIds := congrArg Prod.snd shelf2
  obtain ⟨_, b, row, rfl⟩ := writeBook_eq_ok written
  have shelf4 : lib4.shelf = (lib.bookIds.filter (· ≠ s.id) ++ [s.id], lib.indexIds) := by
    rw [((removeLinks_keeps s.id).skipIf fresh) _ _ _ unlinked, shelf_putBook, stored?_id row,
      books2, index2]
  split at ok4
  case h_1 => cases ok4
  case h_2 authors given =>
    obtain ⟨known5, lib5, linked, ok5⟩ := run_bind_eq_ok.1 ok4
    obtain ⟨_, lib6, removed, ok6⟩ := run_bind_eq_ok.1 ok5
    have shelf5 : lib5.shelf = lib4.shelf :=
      keeps_foldlM (addAuthor_keeps s.id) authors known2 _ _ _ linked
    -- the deletion, which is skipped for a fresh id
    have shelf6 : lib6.shelf = (lib5.bookIds,
        if fresh then lib5.indexIds else lib5.indexIds.filter (· ≠ s.id)) := by
      cases fresh with
      | true =>
        cases removed
        rfl
      | false =>
        rw [changeRows_eq_ok (run_change_eq_ok.1 removed)]
        exact Prod.ext rfl (map_filter_ne Index.Row.bookId lib5.index s.id)
    split at ok6
    case h_1 => cases ok6
    case h_2 joined _ =>
      obtain ⟨_, lib7, added, ok7⟩ := run_bind_eq_ok.1 ok6
      cases ok7
      have shelf7 : after.shelf = (lib6.bookIds, lib6.indexIds ++ [s.id]) := by
        rw [changeRows_eq_ok (run_change_eq_ok.1 added), shelf, indexIds, List.map_append]
        rfl
      rw [shelf7]
      simp only [shelf, Prod.mk.injEq] at shelf4 shelf5 shelf6 ⊢
      rw [shelf6.1, shelf6.2, shelf5.1, shelf5.2, shelf4.1, shelf4.2]
      exact ⟨rfl, rfl⟩

/-- After a book is stored, the index has its row, and its old rows only if the deletion is
skipped. -/
lemma count_indexIds_insert (ok : (insert ctx fresh known s).run lib = (.ok known', after))
    (id : String) :
    after.indexIds.count id = rowsAfter fresh (lib.indexIds.count id) ([s.id].count id) := by
  have index : after.indexIds = _ := congrArg Prod.snd (shelf_insert ok)
  rw [index, List.count_append]
  by_cases e : s.id = id
  · subst e
    cases fresh with
    | true => simp [rowsAfter]
    | false => simp [rowsAfter, List.count_eq_zero]
  · have other : [s.id].count id = 0 := List.count_eq_zero.2 (by simpa using Ne.symm e)
    rw [other]
    cases fresh with
    | true => rfl
    | false => simp [rowsAfter, List.count_filter, Ne.symm e]

/-- A stored submission does not put a book there twice. -/
lemma nodup_bookIds_insert (ok : (insert ctx fresh known s).run lib = (.ok known', after))
    (nodup : lib.bookIds.Nodup) : after.bookIds.Nodup := by
  have books : after.bookIds = _ := congrArg Prod.fst (shelf_insert ok)
  rw [books]
  exact nodup_moved nodup s.id

/-! ## A batch -/

variable {interval total : Nat} {batch : Batch} {rest subs : List Submission}

/-- After a submission only other ids count as new. -/
lemma isNew_advance (id : String) :
    (batch.advance interval total s.id known after).isNew fresh id =
      (batch.isNew fresh id && id ≠ s.id) := by
  simp only [Batch.advance, Batch.isNew, List.contains_cons, Bool.not_or, ne_eq, decide_not]
  rw [Bool.and_comm (!(id == s.id)), Bool.and_assoc]
  rfl

/-- The index rows of a book after the rest of a batch. Nothing is deleted for an id that the batch
has not met yet if it is stored blindly. -/
lemma count_indexIds_insertRest (id : String)
    (ok : (insertRest ctx interval total fresh batch rest).outcome = .ok ()) :
    (insertRest ctx interval total fresh batch rest).tables.indexIds.count id =
      rowsAfter (batch.isNew fresh id) (batch.tables.indexIds.count id)
        ((rest.map (·.id)).count id) := by
  induction rest generalizing batch with
  | nil => rfl
  | cons s rest ih =>
    rw [insertRest_cons] at ok ⊢
    split at ok
    case h_1 => cases ok
    case h_2 known after stored =>
      have first := count_indexIds_insert stored id
      rw [ih ok, isNew_advance, List.map_cons]
      change rowsAfter _ (after.indexIds.count id) _ = _
      rw [first]
      by_cases e : s.id = id
      · subst e
        -- the next submission with this id finds the row of this one
        simp only [ne_eq, not_true, decide_false, Bool.and_false, List.count_cons_self,
          List.count_nil, Nat.zero_add, rowsAfter_zero, rowsAfter_succ]
      · simp only [ne_eq, Ne.symm e, not_false_eq_true, decide_true, Bool.and_true,
          List.count_cons_of_ne e, List.count_nil, rowsAfter_zero]

/-- Neither does the rest of a batch. -/
lemma nodup_bookIds_insertRest (nodup : batch.tables.bookIds.Nodup)
    (ok : (insertRest ctx interval total fresh batch rest).outcome = .ok ()) :
    (insertRest ctx interval total fresh batch rest).tables.bookIds.Nodup := by
  induction rest generalizing batch with
  | nil => exact nodup
  | cons s rest ih =>
    rw [insertRest_cons] at ok ⊢
    split at ok
    case h_1 => cases ok
    case h_2 known after stored => exact ih (nodup_bookIds_insert stored nodup) ok

/-- How many index rows a book has after a batch. -/
theorem count_indexIds_insertAll
    (ok : (lib.insertAll ctx interval fresh subs).outcome = .ok ()) (id : String) :
    (lib.insertAll ctx interval fresh subs).tables.indexIds.count id =
      rowsAfter fresh (lib.indexIds.count id) ((subs.map (·.id)).count id) := by
  have rows := count_indexIds_insertRest id ok
  have new : ({ tables := lib } : Batch).isNew fresh id = fresh := by simp [Batch.isNew]
  rw [new] at rows
  exact rows

end Library

end BookCatalog
