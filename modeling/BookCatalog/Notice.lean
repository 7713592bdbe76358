/-!
# Notices

What the library reports while it works. A notice has a level and a text; the text of some contains
a duration, which the caller measures.
-/

namespace BookCatalog

/-- How urgent a notice is. -/
inductive Level where
  | debug
  | info
  | warning
  deriving DecidableEq, Repr

/-- The name of a level. -/
def Level.name : Level → String
  | .debug => "DEBUG"
  | .info => "INFO"
  | .warning => "WARNING"

/-- Something worth reporting. -/
inductive Notice where
  | malformedLine (number : Nat) (member : String)
  | reading (path : String)
  | parsed (books : Nat)
  | clearing
  | cleared
  | inserting
  | inserted
  | progress (done total : Nat)
  | settingsUnknown (cause : String)
  | settingKept (setting cause : String)
  deriving DecidableEq, Repr

/-- How urgent a notice is. -/
def Notice.level : Notice → Level
  | .malformedLine .. => .debug
  | .settingsUnknown _ => .warning
  | .settingKept .. => .warning
  | _ => .info

/-- The text of a notice, given how long the work it reports has taken. -/
def Notice.message (elapsed : String) : Notice → String
  | .malformedLine number member => s!"Skipping malformed line {number} in {member}"
  | .reading path => "Parsing INPX file " ++ path
  | .parsed books => s!"Parsed {books} books in {elapsed}"
  | .clearing => "Clearing existing data"
  | .cleared => "Cleared existing data in " ++ elapsed
  | .inserting => "Inserting books into database"
  | .inserted => "Inserted books in " ++ elapsed
  | .progress done total => s!"Inserted {done}/{total} books"
  | .settingsUnknown cause => "Could not capture PRAGMA snapshot, skipping tuning: " ++ cause
  | .settingKept setting cause => s!"PRAGMA {setting} optimization skipped: {cause}"

/-- The outcome of a call and the notices given on the way. -/
structure Reply (ε α : Type) where
  outcome : Except ε α
  notices : List Notice := []

end BookCatalog
