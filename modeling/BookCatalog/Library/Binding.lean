import BookCatalog.Handed
import BookCatalog.Library.Transaction

/-!
# Binding values

A statement is prepared first, for which its tables must be there, and then its values are bound one
by one: an integer must fit a column, and a text must have a form in UTF-8. The first value that
cannot be bound decides how the statement fails, and it is not run at all.
-/

namespace BookCatalog

/-- Why a text cannot be bound, if it is there. -/
def refusedText? (text : Option Given) : Option Failure :=
  (text.bind Given.fault?).map .notUtf8

/-- Why an integer cannot be bound, if it is there. -/
def refusedInt? (n : Option Int) : Option Failure :=
  if n.all fitsColumn then none else some .integerTooLarge

namespace Handed

/-- Why the row of a book cannot be bound, by the first of its values in the order of the table. The
numbers of names can always be bound, and so can dates. -/
def refusal? (h : Handed) : Option Failure :=
  [refusedText? (some h.id), refusedText? h.title, refusedInt? h.seriesNum, refusedInt? h.year,
    refusedText? h.language, refusedInt? h.fileSize, refusedText? h.archivePath,
    refusedText? h.fileNum, refusedText? h.format, refusedInt? h.rating,
    refusedText? h.annotation].findSome? fun refusal => refusal

end Handed

namespace Library

/-- Binds a name that may be missing in a statement on the table of its kind. -/
def bindName (action : Action) (kind : Kind) (name : Option Given) : Transaction Unit :=
  match refusedText? name with
  | none => pure ()
  | some refusal => do
    Transaction.check action (·.needTables [kind.table])
    throw refusal

/-- Binds the texts of the row of a book, unless an integer in front of them cannot be bound. -/
def bindRow (h : Handed) : Transaction Unit :=
  match h.refusal? with
  | some (.notUtf8 fault) => do
    Transaction.check (.insertBook h.id.text) (·.needWritable .books)
    throw (.notUtf8 fault)
  | _ => pure ()

end Library

end BookCatalog
