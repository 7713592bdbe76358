import BookCatalog.Library.Failure
import BookCatalog.Notice

/-!
# Settings of a connection

A large batch is stored with relaxed settings, which are put back afterwards. Each setting is
changed on its own: one that the engine refuses to change is reported and left alone.
`Settings.relax` changes them and remembers which ones, `Relaxed.restore` puts those back.
-/

namespace BookCatalog

/-- How changes are journaled. -/
inductive Journal where
  | wal
  | memory
  deriving DecidableEq, Repr

/-- The name of a way of journaling. -/
def Journal.name : Journal → String
  | .wal => "wal"
  | .memory => "memory"

/-- A setting with a number. -/
inductive Setting where
  | synchronous
  | tempStore
  | cacheSize
  deriving DecidableEq, Repr

/-- The name of a setting. -/
def Setting.name : Setting → String
  | .synchronous => "synchronous"
  | .tempStore => "temp_store"
  | .cacheSize => "cache_size"

/-- The settings of a connection. -/
structure Settings where
  synchronous : Int := 2
  tempStore : Int := 0
  cacheSize : Int := -2000
  foreignKeys : Int := 1
  journal : Journal
  deriving DecidableEq, Repr

/-- What decides whether a setting may be changed: a transaction is open, or the library is open on
another connection too. -/
structure Conditions where
  inTransaction : Bool
  shared : Bool
  deriving DecidableEq, Repr

namespace Settings

/-- The value of a setting. -/
def get (s : Settings) : Setting → Int
  | .synchronous => s.synchronous
  | .tempStore => s.tempStore
  | .cacheSize => s.cacheSize

/-- The settings with one value changed. Synchronization stays as it is during a transaction. -/
def set (s : Settings) (cond : Conditions) (value : Int) : Setting → Except EngineError Settings
  | .synchronous =>
    if cond.inTransaction then .error .syncFixed else .ok { s with synchronous := value }
  | .tempStore => .ok { s with tempStore := value }
  | .cacheSize => .ok { s with cacheSize := value }

/-- The settings with another way of journaling. A write-ahead log is not given up during a
transaction, nor while another connection uses it. -/
def setJournal (s : Settings) (cond : Conditions) (journal : Journal) :
    Except EngineError Settings :=
  if s.journal = journal then .ok s
  else if cond.inTransaction then .error .journalFixed
  else if cond.shared then .error .locked
  else .ok { s with journal }

end Settings

/-- The settings of a large batch. -/
def relaxedValues : List (Setting × Int) :=
  [(.synchronous, 0), (.tempStore, 2), (.cacheSize, -200000)]

/-- The way of journaling of a large batch. -/
def relaxedJournal : Journal := .memory

/-- Relaxed settings, with what is needed to put them back: which values were changed, last first,
and whether the way of journaling was. -/
structure Relaxed where
  settings : Settings
  changed : List Setting := []
  journalChanged : Bool := false
  notices : List Notice := []

namespace Relaxed

/-- Changes one setting, or reports that it stays. -/
def change (cond : Conditions) (r : Relaxed) (setting : Setting) (value : Int) : Relaxed :=
  match r.settings.set cond value setting with
  | .ok settings => { r with settings, changed := setting :: r.changed }
  | .error e => { r with notices := r.notices ++ [.settingKept setting.name e.message] }

/-- Changes the way of journaling, or reports that it stays. -/
def changeJournal (cond : Conditions) (r : Relaxed) : Relaxed :=
  match r.settings.setJournal cond relaxedJournal with
  | .ok settings => { r with settings, journalChanged := true }
  | .error e => { r with notices := r.notices ++ [.settingKept "journal_mode" e.message] }

/-- Puts one value back as it was. -/
def putBack (before : Settings) (cond : Conditions) (now : Settings)
    (setting : Setting) : Settings :=
  match now.set cond (before.get setting) setting with
  | .ok settings => settings
  | .error _ => now

/-- The settings as they were before they were relaxed. -/
def restore (before : Settings) (cond : Conditions) (r : Relaxed) : Settings :=
  let settings :=
    if r.journalChanged then
      match r.settings.setJournal cond before.journal with
      | .ok settings => settings
      | .error _ => r.settings
    else r.settings
  r.changed.foldl (putBack before cond) settings

end Relaxed

/-- Relaxes the settings for a large batch, as far as the engine lets it. -/
def Settings.relax (s : Settings) (cond : Conditions) : Relaxed :=
  let relaxed : Relaxed :=
    relaxedValues.foldl (fun r change => r.change cond change.1 change.2) { settings := s }
  relaxed.changeJournal cond

end BookCatalog
