import BookCatalog.Library.Basic

/-!
# Transactions

A `Transaction` is a sequence of statements on the tables of a library. A statement that is refused
changes nothing and ends the sequence, but what was written before it stays written: it is up to the
caller to take that back.
-/

namespace BookCatalog

/-- Two steps succeed if both of them do. -/
theorem bind_eq_ok {ε α β : Type} {x : Except ε α} {f : α → Except ε β} {b : β} :
    x >>= f = .ok b ↔ ∃ a, x = .ok a ∧ f a = .ok b := by
  cases x with
  | error e => simp [bind, Except.bind]
  | ok a => simp [bind, Except.bind]

/-- Statements on the tables of a library, one after the other. -/
abbrev Transaction (α : Type) : Type :=
  ExceptT Failure (StateM Library) α

namespace Transaction

variable {α β : Type}

/-- The result of the statements, or why one failed, and the tables as they leave them. -/
def run (t : Transaction α) (lib : Library) : Except Failure α × Library :=
  StateT.run (ExceptT.run t) lib

/-- One statement on behalf of an action. -/
def execute (action : Action) (statement : Library → Except EngineError (α × Library)) :
    Transaction α :=
  ExceptT.mk fun lib =>
    match statement lib with
    | .ok (a, after) => (.ok a, after)
    | .error e => (.error (.catalog action e), lib)

/-- One statement that gives nothing back. -/
def change (action : Action)
    (statement : Library → Except EngineError Library) : Transaction Unit :=
  execute action fun lib => (statement lib).map ((), ·)

/-- Refuses to go on if the tables are not as they are needed. -/
def check (action : Action) (need : Library → Except EngineError Unit) : Transaction Unit :=
  change action fun lib => (need lib).map fun _ => lib

/-- Statements that are left out where they are not needed. -/
def skipIf (needless : Bool) (t : Transaction Unit) : Transaction Unit :=
  if needless then pure () else t

@[simp] theorem run_pure (a : α) (lib : Library) :
    run (pure a : Transaction α) lib = (.ok a, lib) := rfl

@[simp] theorem run_throw (e : Failure) (lib : Library) :
    run (throw e : Transaction α) lib = (.error e, lib) := rfl

/-- In a sequence the second part runs on what the first part leaves, unless the first part fails.
-/
theorem run_bind (t : Transaction α) (f : α → Transaction β) (lib : Library) :
    run (t >>= f) lib =
      match run t lib with
      | (.ok a, after) => run (f a) after
      | (.error e, after) => (.error e, after) := by
  change (match run t lib with | (a, after) => ExceptT.bindCont f a after) = _
  rcases run t lib with ⟨_ | _, _⟩ <;> rfl

/-- A sequence succeeds if both of its parts do, the second one on the tables that the first one
leaves. -/
theorem run_bind_eq_ok {t : Transaction α} {f : α → Transaction β} {lib after : Library} {b : β} :
    run (t >>= f) lib = (.ok b, after) ↔
      ∃ a between, run t lib = (.ok a, between) ∧ run (f a) between = (.ok b, after) := by
  rw [run_bind]
  rcases run t lib with ⟨e | a, between⟩
  · simp
  · exact ⟨fun h => ⟨a, between, rfl, h⟩, fun ⟨_, _, h, hf⟩ => by cases h; exact hf⟩

/-- A statement either takes effect or changes nothing. -/
theorem run_execute (action : Action) (statement : Library → Except EngineError (α × Library))
    (lib : Library) :
    run (execute action statement) lib =
      match statement lib with
      | .ok (a, after) => (.ok a, after)
      | .error e => (.error (.catalog action e), lib) := rfl

/-- A statement that succeeds gives what it gives on its own. -/
theorem run_execute_eq_ok {action : Action} {statement : Library → Except EngineError (α × Library)}
    {lib after : Library} {a : α} :
    run (execute action statement) lib = (.ok a, after) ↔ statement lib = .ok (a, after) := by
  rw [run_execute]
  rcases statement lib with _ | ⟨_, _⟩ <;> simp

/-- A change that succeeds leaves what it leaves on its own. -/
theorem run_change_eq_ok {action : Action} {statement : Library → Except EngineError Library}
    {lib after : Library} :
    run (change action statement) lib = (.ok (), after) ↔ statement lib = .ok after := by
  rw [change, run_execute_eq_ok]
  cases statement lib <;> simp [Except.map]

/-- A check that succeeds changes nothing. -/
theorem run_check_eq_ok {action : Action} {need : Library → Except EngineError Unit}
    {lib after : Library} :
    run (check action need) lib = (.ok (), after) ↔ need lib = .ok () ∧ after = lib := by
  rw [check, run_change_eq_ok]
  cases need lib <;> simp [Except.map, eq_comm]

end Transaction

end BookCatalog
