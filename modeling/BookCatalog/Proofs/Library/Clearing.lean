import BookCatalog.Library.Batch
import BookCatalog.Library.Schema
import Mathlib

/-!
# Emptying a library

`Library.clearAll` succeeds exactly if the tables are all there and no other writer holds the
library, and then it leaves the emptied library (`Library.run_clearAll_eq_ok`). The order of its
statements matters: a series or a genre could not go before the books that refer to it.
-/

namespace BookCatalog.Library

variable {lib after : Library} {ctx : WriteContext} {t : Table}

/-- The tables that hold the books and what belongs to them are there. -/
def Ready (lib : Library) : Prop :=
  ∀ t ∈ clearOrder, lib.hasTable t = true

/-- Which tables are there is read off the schema alone. -/
lemma Ready.of_objects (ready : lib.Ready) (same : after.objects = lib.objects) : after.Ready := by
  intro t mem
  have there := ready t mem
  rwa [hasTable, ← same] at there

/-- A new library has all objects of the script and no rows but its version. -/
lemma fresh_eq :
    fresh = { objects := schemaScript.map SchemaStep.object, versions := [schemaVersion] } := by
  decide +kernel

/-- A new library has all tables. -/
lemma ready_fresh : fresh.Ready := by
  rw [fresh_eq]
  rw [Ready]
  decide +kernel

/-- A change of rows looks into no table but these. -/
lemma referredTo_subset (lib : Library) (t : Table) : lib.referredTo t ⊆ clearOrder := by
  intro t' mem
  unfold referredTo at mem
  split at mem
  · split at mem <;> revert t' <;> decide
  · revert t'
    decide
  · cases mem

/-- A statement on one of the tables is not refused. -/
lemma needTables_ready (ready : lib.Ready) (mem : t ∈ clearOrder) :
    lib.needTables [t] = .ok () :=
  needTables_eq_ok.2 fun _ h => List.mem_singleton.1 h ▸ ready t mem

/-- A change of one of the tables is not refused. -/
lemma needWritable_ready (ready : lib.Ready) (mem : t ∈ clearOrder) :
    lib.needWritable t = .ok () := by
  rw [needWritable, bind_eq_ok]
  refine ⟨(), needTables_ready ready mem, needReferenced_eq_ok.2 fun t' listed => ?_⟩
  exact ready t' (referredTo_subset lib t listed)

/-- A table that can be changed is there. -/
lemma hasTable_of_needWritable (ok : lib.needWritable t = .ok ()) : lib.hasTable t = true := by
  rw [needWritable, bind_eq_ok] at ok
  obtain ⟨_, there, _⟩ := ok
  exact needTables_eq_ok.1 there t List.mem_cons_self

/-- A change is not refused unless another writer holds the library. -/
lemma needUnlocked_eq_ok : needUnlocked ctx = .ok () ↔ ctx.locked = false := by
  rw [needUnlocked]
  cases ctx.locked <;> simp

/-- What it takes to remove the rows of a table. -/
lemma removeAll_eq_ok : removeAll ctx t lib = .ok after ↔
    lib.needWritable t = .ok () ∧ ctx.locked = false ∧ lib.withoutRows t = .ok after := by
  rw [removeAll, bind_eq_ok]
  constructor
  · rintro ⟨_, writable, rest⟩
    obtain ⟨_, unlocked, removed⟩ := bind_eq_ok.1 rest
    exact ⟨writable, needUnlocked_eq_ok.1 unlocked, removed⟩
  · rintro ⟨writable, unlocked, removed⟩
    exact ⟨(), writable, bind_eq_ok.2 ⟨(), needUnlocked_eq_ok.2 unlocked, removed⟩⟩

/-- The tables are emptied one after the other. -/
lemma run_forM_removeAll_cons {rest : List Table} :
    ((t :: rest).forM fun t => Transaction.change .clear (removeAll ctx t)).run lib =
        (.ok (), after) ↔
      ∃ between, removeAll ctx t lib = .ok between ∧
        (rest.forM fun t => Transaction.change .clear (removeAll ctx t)).run between =
          (.ok (), after) := by
  rw [List.forM_eq_forM, List.forM_cons, Transaction.run_bind_eq_ok]
  constructor
  · rintro ⟨_, between, removed, rest⟩
    exact ⟨between, Transaction.run_change_eq_ok.1 removed, rest⟩
  · rintro ⟨between, removed, rest⟩
    exact ⟨(), between, Transaction.run_change_eq_ok.2 removed, rest⟩

/-- Emptying succeeds if all tables are there and nobody else writes, and then it empties the
library. -/
theorem run_clearAll_eq_ok : (clearAll ctx).run lib = (.ok (), after) ↔
    lib.Ready ∧ ctx.locked = false ∧ after = lib.emptied := by
  unfold clearAll clearOrder
  simp only [run_forM_removeAll_cons, removeAll_eq_ok]
  constructor
  · rintro ⟨_, ⟨links, unlocked, ⟨⟩⟩, _, ⟨books, _, ⟨⟩⟩, _, ⟨authors, _, ⟨⟩⟩, _,
      ⟨series, _, removed⟩, _, ⟨genres, _, removed'⟩, _, ⟨index, _, ⟨⟩⟩, ⟨⟩⟩
    cases removed
    cases removed'
    refine ⟨?_, unlocked, rfl⟩
    intro t mem
    -- the schema is the same all along
    simp only [clearOrder, List.mem_cons, List.not_mem_nil, or_false] at mem
    rcases mem with rfl | rfl | rfl | rfl | rfl | rfl
    · exact hasTable_of_needWritable links
    · exact hasTable_of_needWritable books
    · exact hasTable_of_needWritable authors
    · exact hasTable_of_needWritable series
    · exact hasTable_of_needWritable genres
    · exact hasTable_of_needWritable index
  · rintro ⟨ready, unlocked, rfl⟩
    have writable : ∀ {between : Library} {t : Table}, between.objects = lib.objects →
        t ∈ clearOrder → between.needWritable t = .ok () :=
      fun same mem => needWritable_ready (ready.of_objects same) mem
    exact ⟨_, ⟨writable rfl (by decide), unlocked, rfl⟩, _,
      ⟨writable rfl (by decide), unlocked, rfl⟩, _,
      ⟨writable rfl (by decide), unlocked, rfl⟩, _,
      ⟨writable rfl (by decide), unlocked, rfl⟩, _,
      ⟨writable rfl (by decide), unlocked, rfl⟩, _,
      ⟨writable rfl (by decide), unlocked, rfl⟩, rfl⟩

/-- Where a statement of emptying is refused, the engine's reason is reported. -/
lemma run_forM_removeAll_error {tables : List Table} {e : Failure}
    (failed : (tables.forM fun t => Transaction.change .clear (removeAll ctx t)).run lib =
      (.error e, after)) :
    ∃ cause, e = .catalog .clear cause := by
  induction tables generalizing lib with
  | nil => cases failed
  | cons t rest ih =>
    rw [List.forM_eq_forM, List.forM_cons, Transaction.run_bind] at failed
    cases removed : removeAll ctx t lib with
    | error cause =>
      simp only [Transaction.change, Transaction.run_execute, removed, Except.map] at failed
      cases failed
      exact ⟨cause, rfl⟩
    | ok between =>
      simp only [Transaction.change, Transaction.run_execute, removed, Except.map] at failed
      exact ih failed

/-- Emptying fails only because of the engine. -/
lemma run_clearAll_error {e : Failure} (failed : (clearAll ctx).run lib = (.error e, after)) :
    ∃ cause, e = .catalog .clear cause :=
  run_forM_removeAll_error failed

end BookCatalog.Library
