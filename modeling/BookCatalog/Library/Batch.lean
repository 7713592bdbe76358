import BookCatalog.Library.Insert

/-!
# Batches

`Library.insertAll` stores a batch of books one after the other. The first book that cannot be
stored ends the batch, and the tables stay as they were written by then. If nothing was in the
tables before, nothing needs to be deleted for an id that the batch has not met yet.
`Library.clearAll` empties the tables.
-/

namespace BookCatalog.Library

/-- A batch in the middle of being stored: the tables, the names and the ids that it has met, how
many of its books are stored, and what was reported, last first. -/
structure Batch where
  tables : Library
  known : KnownNames := []
  seen : List String := []
  done : Nat := 0
  notices : List Notice := []

/-- How a batch ends: whether everything was stored, and what is in the tables. -/
structure BatchResult where
  outcome : Except Failure Unit
  tables : Library
  notices : List Notice

/-- There is nothing to delete for an id: the tables were empty, and the batch has not met it. -/
def Batch.isNew (batch : Batch) (fresh : Bool) (id : String) : Bool :=
  fresh && !batch.seen.contains id

/-- The batch after one more book is stored. Progress is reported after every `interval` books
and after the last of all `total` ones. -/
def Batch.advance (batch : Batch) (interval total : Nat) (id : String) (known : KnownNames)
    (tables : Library) : Batch :=
  let done := batch.done + 1
  { tables
    known
    seen := id :: batch.seen
    done
    notices :=
      if done % interval = 0 ∨ done = total then .progress done total :: batch.notices
      else batch.notices }

/-- Stores the rest of a batch. -/
def insertRest {β : Type} [Handing β] (ctx : WriteContext) (interval total : Nat) (fresh : Bool)
    (batch : Batch) : List β → BatchResult
  | [] => ⟨.ok (), batch.tables, batch.notices.reverse⟩
  | b :: rest =>
    let id := (Handing.handed b).id.text
    match (insert ctx (batch.isNew fresh id) batch.known b).run batch.tables with
    | (.error e, tables) => ⟨.error e, tables, batch.notices.reverse⟩
    | (.ok known, tables) =>
      insertRest ctx interval total fresh (batch.advance interval total id known tables) rest

/-- Stores a batch. With `fresh`, the tables are known to hold nothing about its books. -/
def insertAll {β : Type} [Handing β] (ctx : WriteContext) (interval : Nat) (lib : Library)
    (fresh : Bool) (batch : List β) : BatchResult :=
  insertRest ctx interval batch.length fresh { tables := lib } batch

/-- The tables to empty, those that refer to others first. -/
def clearOrder : List Table :=
  [.bookAuthors, .books, .authors, .series, .genres, .booksFts]

/-- Empties the tables. -/
def clearAll (ctx : WriteContext) : Transaction Unit :=
  clearOrder.forM fun t => Transaction.change .clear (removeAll ctx t)

end BookCatalog.Library
