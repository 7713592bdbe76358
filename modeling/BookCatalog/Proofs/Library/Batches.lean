import BookCatalog.Library.Batch
import BookCatalog.Proofs.Library.Stored

/-!
# What storing a batch does

A batch that succeeds leaves the tables that storing its submissions plainly, one after the other,
leaves (`Library.insertAll_eq_ok`). `Batch.Consistent` is what holds in the middle of a batch: the
remembered names are those of the tables, and if deletions are skipped, only ids that the batch has
met are in the tables.
-/

namespace BookCatalog.Library

variable {lib after : Library} {ctx : WriteContext} {interval total : Nat} {fresh : Bool}
  {batch : Batch} {s : Submission}

/-- The library with submissions stored in it, one after the other. -/
def storedAll (lib : Library) (now : String) (batch : List Submission) : Library :=
  batch.foldl (fun lib s => lib.stored now s) lib

/-- What holds in the middle of a batch. -/
structure Batch.Consistent (batch : Batch) (fresh : Bool) : Prop where
  known : batch.known.Valid batch.tables
  lacks : fresh = true → ∀ id, id ∉ batch.seen → batch.tables.Lacks id
  sound : batch.tables.NamesSound

/-- Storing a book puts nothing into the tables that belongs to another one. -/
lemma Gains.lacks (gains : lib.Gains s after) {bookId : String} (lacks : lib.Lacks bookId)
    (ne : s.id ≠ bookId) : after.Lacks bookId := by
  constructor
  · intro l mem
    cases (gains.links l).1 mem with
    | inl old => exact lacks.links l old.1
    | inr new => exact new.1.trans_ne ne
  · intro row mem
    rw [gains.index, List.mem_append, List.mem_singleton] at mem
    cases mem with
    | inl old => exact lacks.index row (List.mem_filter.1 old).1
    | inr new => exact new ▸ ne

/-- An id that deletions are skipped for is not in the tables. -/
lemma Batch.Consistent.lacks_of_isNew (consistent : batch.Consistent fresh) {bookId : String}
    (new : batch.isNew fresh bookId = true) : batch.tables.Lacks bookId := by
  simp only [Batch.isNew, Bool.and_eq_true, Bool.not_eq_true', List.contains_eq_mem,
    decide_eq_false_iff_not] at new
  exact consistent.lacks new.1 bookId new.2

/-- One more stored submission keeps a batch consistent. -/
lemma Batch.Consistent.advance (consistent : batch.Consistent fresh) {known : KnownNames}
    (gains : batch.tables.Gains s after) (valid : known.Valid after) :
    (batch.advance interval total s.id known after).Consistent fresh := by
  refine ⟨valid, fun isFresh id unseen => ?_, gains.sound⟩
  simp only [Batch.advance, List.mem_cons, not_or] at unseen
  exact gains.lacks (consistent.lacks isFresh id unseen.2) (Ne.symm unseen.1)

/-- Where the rest of a batch succeeds, its submissions are stored plainly. -/
lemma insertRest_eq_ok {rest : List Submission} (consistent : batch.Consistent fresh)
    (ok : (insertRest ctx interval total fresh batch rest).outcome = .ok ()) :
    (∀ s ∈ rest, s.Storable) ∧
      (insertRest ctx interval total fresh batch rest).tables =
        batch.tables.storedAll ctx.now rest := by
  induction rest generalizing batch with
  | nil => exact ⟨by simp, rfl⟩
  | cons s rest ih =>
    rw [insertRest_cons] at ok ⊢
    split at ok
    case h_1 => cases ok
    case h_2 known after stored =>
      obtain ⟨storable, eq, valid⟩ :=
        run_insert_eq_ok consistent.known consistent.lacks_of_isNew stored
      -- the first submission keeps the batch consistent, so the rest can go on from there
      have gains := stored_gains consistent.sound storable ctx.now
      rw [← eq] at gains
      obtain ⟨storables, tables⟩ := ih (consistent.advance gains valid) ok
      refine ⟨List.forall_mem_cons.2 ⟨storable, storables⟩, ?_⟩
      rw [storedAll, List.foldl_cons, ← eq]
      exact tables

/-- Where a batch succeeds, its submissions are stored plainly. -/
theorem insertAll_eq_ok {subs : List Submission} (sound : lib.NamesSound)
    (lacks : fresh = true → ∀ id, lib.Lacks id)
    (ok : (lib.insertAll ctx interval fresh subs).outcome = .ok ()) :
    (∀ s ∈ subs, s.Storable) ∧
      (lib.insertAll ctx interval fresh subs).tables = lib.storedAll ctx.now subs :=
  insertRest_eq_ok ⟨KnownNames.valid_nil lib, fun isFresh id _ => lacks isFresh id, sound⟩ ok

end BookCatalog.Library
