import BookCatalog.Proofs.Session.Steps

/-!
# Settings are put back

A large batch is stored with relaxed settings. Whatever the engine lets be changed for it, all of it
is put back afterwards, and what it refuses to change is left alone (`Settings.restore_relax`). So a
large batch is stored like any other (`Session.insert_tuned`). The central notions:

* `Settings.SameBut`: settings that differ from others in some values only.
* `Relaxed.Recorded`: what was changed is recorded, so that the rest is as before.
* `Session.insertPlain`: storing a batch, whatever its size, under the settings that there are.
-/

namespace BookCatalog

namespace Settings

variable {s t : Settings} {cond : Conditions} {value : Int} {setting : Setting} {journal : Journal}
  {changed : List Setting}

/-- Settings that are those of `s` but, perhaps, for some values. -/
structure SameBut (s : Settings) (changed : List Setting) (t : Settings) : Prop where
  values : ∀ setting, setting ∉ changed → t.get setting = s.get setting
  foreignKeys : t.foreignKeys = s.foreignKeys
  journal : t.journal = s.journal

/-- Settings are the same as themselves. -/
lemma SameBut.refl (s : Settings) : s.SameBut [] s :=
  ⟨fun _ _ => rfl, rfl, rfl⟩

/-- Settings that differ in nothing are the same. -/
lemma SameBut.eq (same : s.SameBut [] t) : t = s := by
  have value : ∀ setting, t.get setting = s.get setting :=
    fun setting => same.values setting (by simp)
  cases s
  cases t
  rw [Settings.mk.injEq]
  exact ⟨value .synchronous, value .tempStore, value .cacheSize, same.foreignKeys, same.journal⟩

/-- A change that the engine takes changes one value, to the one it is asked for. -/
lemma set_eq_ok (ok : s.set cond value setting = .ok t) :
    s.SameBut [setting] t ∧ t.get setting = value := by
  cases setting with
  | synchronous =>
    rw [set] at ok
    split at ok
    case isTrue => cases ok
    case isFalse =>
      cases ok
      refine ⟨⟨fun other ne => ?_, rfl, rfl⟩, rfl⟩
      cases other <;> first | rfl | exact absurd List.mem_cons_self ne
  | tempStore =>
    cases ok
    refine ⟨⟨fun other ne => ?_, rfl, rfl⟩, rfl⟩
    cases other <;> first | rfl | exact absurd List.mem_cons_self ne
  | cacheSize =>
    cases ok
    refine ⟨⟨fun other ne => ?_, rfl, rfl⟩, rfl⟩
    cases other <;> first | rfl | exact absurd List.mem_cons_self ne

/-- Outside of a transaction the engine takes every value. -/
lemma exists_set (ended : cond.inTransaction = false) (s : Settings) (value : Int)
    (setting : Setting) :
    ∃ t, s.set cond value setting = .ok t := by
  cases setting with
  | synchronous =>
    rw [set, ended, if_neg Bool.false_ne_true]
    exact ⟨_, rfl⟩
  | tempStore => exact ⟨_, rfl⟩
  | cacheSize => exact ⟨_, rfl⟩

/-- The journal is changed only where nobody else is connected. -/
lemma setJournal_eq_ok (ok : s.setJournal cond journal = .ok t) :
    t = { s with journal } ∧ (s.journal = journal ∨ cond.shared = false) := by
  rw [setJournal] at ok
  split at ok
  case isTrue same =>
    cases ok
    exact ⟨by rw [← same], .inl same⟩
  case isFalse =>
    split at ok
    case isTrue => cases ok
    case isFalse =>
      split at ok
      case isTrue => cases ok
      case isFalse alone =>
        cases ok
        exact ⟨rfl, .inr (Bool.eq_false_iff.2 alone)⟩

/-- Outside of a transaction the way of journaling can be changed, unless another connection uses
it. -/
lemma setJournal_of_ended (ended : cond.inTransaction = false)
    (alone : s.journal = journal ∨ cond.shared = false) :
    s.setJournal cond journal = .ok { s with journal } := by
  rw [setJournal]
  split
  case isTrue same => rw [← same]
  case isFalse other =>
    rw [ended, alone.resolve_left other, if_neg Bool.false_ne_true, if_neg Bool.false_ne_true]

end Settings

namespace Relaxed

open Settings

variable {before : Settings} {cond later : Conditions} {r : Relaxed} {setting : Setting}

/-- The values that are not recorded as changed are as before. -/
structure Recorded (before : Settings) (r : Relaxed) : Prop where
  settings : before.SameBut r.changed r.settings
  journal : r.journalChanged = false

/-- A change is recorded if the engine takes it, and changes nothing otherwise. -/
lemma Recorded.change (recorded : Recorded before r) (cond : Conditions) (setting : Setting)
    (value : Int) :
    Recorded before (r.change cond setting value) := by
  rw [Relaxed.change]
  split
  case h_1 t ok =>
    obtain ⟨same, -⟩ := set_eq_ok ok
    refine ⟨⟨fun other ne => ?_, ?_, ?_⟩, recorded.journal⟩
    · rw [List.mem_cons, not_or] at ne
      rw [same.values other (by simpa using ne.1)]
      exact recorded.settings.values other ne.2
    · exact same.foreignKeys.trans recorded.settings.foreignKeys
    · exact same.journal.trans recorded.settings.journal
  case h_2 => exact ⟨recorded.settings, recorded.journal⟩

/-- Whatever is changed is recorded. -/
lemma Recorded.changes (recorded : Recorded before r) (cond : Conditions)
    (values : List (Setting × Int)) :
    Recorded before (values.foldl (fun r change => r.change cond change.1 change.2) r) := by
  induction values generalizing r with
  | nil => exact recorded
  | cons first rest ih => exact ih (recorded.change cond first.1 first.2)

/-- A recorded value that is put back is as before. -/
lemma sameBut_putBack {now : Settings} {rest : List Setting} (ended : later.inTransaction = false)
    (same : before.SameBut (setting :: rest) now) :
    before.SameBut rest (putBack before later now setting) := by
  obtain ⟨t, ok⟩ := exists_set ended now (before.get setting) setting
  obtain ⟨changed, value⟩ := set_eq_ok ok
  rw [putBack, ok]
  refine ⟨fun other ne => ?_, ?_, ?_⟩
  · by_cases own : other = setting
    · rw [own, value]
    · rw [changed.values other (by simpa using own)]
      exact same.values other (by simp [own, ne])
  · exact changed.foreignKeys.trans same.foreignKeys
  · exact changed.journal.trans same.journal

/-- Outside of a transaction everything that was changed is put back. -/
lemma foldl_putBack (ended : later.inTransaction = false) {now : Settings} {changed : List Setting}
    (same : before.SameBut changed now) : changed.foldl (putBack before later) now = before := by
  -- by induction on what is still to be put back
  induction changed generalizing now with
  | nil => exact same.eq
  | cons setting rest ih => exact ih (sameBut_putBack ended same)

/-- Once the transaction is over, the way of journaling is put back if it was changed. -/
lemma restore_changeJournal (ended : later.inTransaction = false)
    (around : later.shared = cond.shared)
    (recorded : Recorded before r) : (r.changeJournal cond).restore before later = before := by
  rw [changeJournal]
  split
  case h_1 t ok =>
    obtain ⟨rfl, alone⟩ := setJournal_eq_ok ok
    have back : r.settings.journal = before.journal := recorded.settings.journal
    have open_ : relaxedJournal = before.journal ∨ later.shared = false := by
      rw [← back, around]
      exact alone.imp_left Eq.symm
    rw [restore, if_pos rfl, setJournal_of_ended ended open_]
    exact foldl_putBack ended ⟨recorded.settings.values, recorded.settings.foreignKeys, rfl⟩
  case h_2 =>
    rw [restore, if_neg (by rw [recorded.journal]; exact Bool.false_ne_true)]
    exact foldl_putBack ended recorded.settings

end Relaxed

/-- After the transaction that they were relaxed for, all settings are put back, whichever of them
the engine let be changed. -/
theorem Settings.restore_relax (s : Settings) {cond later : Conditions}
    (ended : later.inTransaction = false)
    (around : later.shared = cond.shared) : (s.relax cond).restore s later = s := by
  rw [relax]
  apply Relaxed.restore_changeJournal ended around
  exact Relaxed.Recorded.changes ⟨.refl s, rfl⟩ cond relaxedValues

namespace Session

variable {s : Session} {around : Surroundings} {now : String} {interval : Nat} {fresh : Bool}
  {batch : List Submission}

/-- The session with other settings and another threshold. -/
def tuned (s : Session) (settings : Settings) (threshold : Int) : Session :=
  { s with settings, threshold }

/-- Storing ends with a commit or with a rollback. -/
lemma store_cases (s : Session) :
    ∃ lib, (s.store around now interval fresh batch).1 = (s.write lib).commit ∨
      (s.store around now interval fresh batch).1 = (s.write lib).rollback := by
  cases result : (s.library.insertAll ⟨around.locked, now⟩ interval fresh batch).outcome with
  | ok => exact ⟨_, .inl (congrArg Prod.fst (store_of_ok result))⟩
  | error e => exact ⟨_, .inr (congrArg Prod.fst (store_of_error result))⟩

/-- Storing leaves no transaction open. -/
lemma store_draft (s : Session) : (s.store around now interval fresh batch).1.draft = none := by
  obtain ⟨lib, eq | eq⟩ := s.store_cases <;> rw [eq] <;> rfl

/-- Storing does not change the settings. -/
lemma store_settings (s : Session) :
    (s.store around now interval fresh batch).1.settings = s.settings := by
  obtain ⟨lib, eq | eq⟩ := s.store_cases <;> rw [eq] <;> rfl

/-- A stored batch leaves the settings and the threshold. -/
lemma tuned_store (s : Session) :
    (s.store around now interval fresh batch).1.tuned s.settings s.threshold =
      (s.store around now interval fresh batch).1 := by
  obtain ⟨lib, eq | eq⟩ := s.store_cases <;> rw [eq] <;> rfl

/-- How a batch is stored depends neither on the settings nor on the threshold. -/
lemma store_tuned (s : Session) (settings : Settings) (threshold : Int) :
    (s.tuned settings threshold).store around now interval fresh batch =
      ((s.store around now interval fresh batch).1.tuned settings threshold,
        (s.store around now interval fresh batch).2) := by
  cases result : (s.library.insertAll ⟨around.locked, now⟩ interval fresh batch).outcome with
  | ok =>
    rw [store_of_ok result]
    exact store_of_ok result
  | error e =>
    rw [store_of_error result]
    exact store_of_error result

/-- Under relaxed settings a batch is stored as it is without them. -/
lemma storeRelaxed_plain (s : Session) :
    (s.storeRelaxed around now interval fresh batch).1 =
        (s.store around now interval fresh batch).1 ∧
      (s.storeRelaxed around now interval fresh batch).2.outcome =
        (s.store around now interval fresh batch).2.outcome := by
  let relaxed := s.settings.relax (s.conditions around)
  let stored := s.store around now interval fresh batch
  have ended : (stored.1.conditions around).inTransaction = false := by
    rw [conditions, store_draft, Option.isSome_none]
  have back : relaxed.restore s.settings (stored.1.conditions around) = s.settings :=
    Settings.restore_relax s.settings ended rfl
  have under : (s.tuned relaxed.settings s.threshold).store around now interval fresh batch =
      (stored.1.tuned relaxed.settings s.threshold, stored.2) :=
    s.store_tuned relaxed.settings s.threshold
  rw [tuned] at under
  rw [storeRelaxed, under]
  refine ⟨?_, rfl⟩
  change stored.1.tuned (relaxed.restore s.settings (stored.1.conditions around)) s.threshold =
    stored.1
  rw [back]
  exact s.tuned_store

/-- Stores a batch of any size under the settings that there are. -/
def insertPlain (s : Session) (around : Surroundings) (now : String) (interval : Nat)
    (batch : List Submission) : Session × Except Failure Unit :=
  let used : Session := { s with freshness := ⟨false⟩ }
  if batch.isEmpty then (used, .ok ())
  else if !s.isOpen then (used, .error (.engine .closed))
  else
    let (after, reply) := used.store around now interval s.freshness.known batch
    (after, reply.outcome)

variable (s) (around) (now) (interval) (batch)

/-- Whether or not it relaxes the settings, storing a batch leaves the same and ends alike. -/
lemma insert_plain :
    (s.insert around now interval batch).1 = (s.insertPlain around now interval batch).1 ∧
      (s.insert around now interval batch).2.outcome =
      (s.insertPlain around now interval batch).2 := by
  simp only [insert, insertPlain, Freshness.consume]
  split
  case isTrue => exact ⟨rfl, rfl⟩
  case isFalse =>
    split
    case isTrue => exact ⟨rfl, rfl⟩
    case isFalse =>
      split
      case isTrue => exact storeRelaxed_plain _
      case isFalse => exact ⟨rfl, rfl⟩

/-- Plain storing does not look at the settings. -/
lemma insertPlain_tuned (settings : Settings) (threshold : Int) :
    (s.tuned settings threshold).insertPlain around now interval batch =
      ((s.insertPlain around now interval batch).1.tuned settings threshold,
        (s.insertPlain around now interval batch).2) := by
  let used : Session := { s with freshness := ⟨false⟩ }
  have stored : (used.tuned settings threshold).store around now interval s.freshness.known batch =
      ((used.store around now interval s.freshness.known batch).1.tuned settings threshold,
        (used.store around now interval s.freshness.known batch).2) :=
    used.store_tuned settings threshold
  rw [insertPlain, insertPlain]
  split
  case isTrue => rfl
  case isFalse =>
    by_cases closed : (!s.isOpen) = true
    · rw [if_pos closed]
      exact if_pos closed
    · rw [if_neg closed]
      refine (if_neg closed).trans ?_
      exact congrArg (fun result => (result.1, result.2.outcome)) stored

/-- Plain storing does not change the settings. -/
lemma insertPlain_settings : (s.insertPlain around now interval batch).1.settings = s.settings := by
  rw [insertPlain]
  split
  case isTrue => rfl
  case isFalse =>
    split
    case isTrue => rfl
    case isFalse => exact store_settings _

/-- After a batch the settings are those before it. -/
theorem insert_settings : (s.insert around now interval batch).1.settings = s.settings := by
  rw [(s.insert_plain around now interval batch).1, insertPlain_settings]

/-- What counts as a large batch makes no difference to what storing one leaves and how it ends. -/
theorem insert_tuned (settings : Settings) (threshold : Int) :
    ∃ notices, (s.tuned settings threshold).insert around now interval batch =
      ((s.insert around now interval batch).1.tuned settings threshold,
        ⟨(s.insert around now interval batch).2.outcome, notices⟩) := by
  obtain ⟨left, ends⟩ := s.insert_plain around now interval batch
  obtain ⟨left', ends'⟩ := (s.tuned settings threshold).insert_plain around now interval batch
  rw [insertPlain_tuned, ← left] at left'
  rw [insertPlain_tuned, ← ends] at ends'
  exact ⟨_, Prod.ext left' (by rw [← ends'])⟩

end Session

end BookCatalog
