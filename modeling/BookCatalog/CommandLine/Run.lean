import BookCatalog.CommandLine.Command
import BookCatalog.Disk.Library
import BookCatalog.Library.Reindex
import BookCatalog.Report.Book

/-!
# Running commands

`Command.run` carries out a command on a library that has been opened, and `CommandLine.run` reads a
command line, opens the library on a disk, runs the command and closes the library again. How a run
ends is told apart from what it prints.
-/

namespace BookCatalog

/-- A part of a run whose duration is reported. -/
inductive Phase where
  | whole
  | reading
  | clearing
  | storing
  deriving DecidableEq, Repr

/-- How a run ends: with an exit code, because the command line was not understood, or because of an
error that no command expects. -/
inductive Ending where
  | exit (code : Nat)
  | usage (cause : CommandLine.UsageError)
  | failed (cause : ReindexError)
  deriving DecidableEq, Repr

/-- What a run amounts to. What is printed can name the durations of its phases. -/
structure Outcome where
  ending : Ending
  printed : (Phase → String) → List Printed := fun _ => []
  output : String := ""
  notices : List Notice := []

namespace Outcome

/-- A run that prints and ends well. -/
def ofPrinted (printed : List Printed) : Outcome :=
  { ending := .exit 0, printed := fun _ => printed }

/-- A run that writes JSON and ends well. -/
def ofJson (j : Json) : Outcome :=
  { ending := .exit 0, output := j.pretty ++ "\n" }

/-- A run that reports an error. -/
def ofError (message : String) : Outcome :=
  { ending := .exit 1, printed := fun _ => [.line [⟨.red, "Error:"⟩, ⟨.plain, " " ++ message⟩]] }

/-- A run that prints a line in red, and ends badly. -/
def ofRed (message : String) : Outcome :=
  { ending := .exit 1, printed := fun _ => [.line [⟨.red, message⟩]] }

/-- A run on a library that failed. Failures of the catalog are reported, others are not
expected. -/
def ofFailure (f : Failure) : Outcome :=
  match f with
  | .catalog .. => ofError f.message
  | f => { ending := .failed (.library f) }

/-- A run that could not rebuild a library. -/
def ofReindexError (e : ReindexError) : Outcome :=
  match e with
  | .noPath => ofRed "No INPX path given. Use --inpx or INPXSHELF_INPX."
  | .notFound _ => ofError e.message
  | .index (.archive _) => { ending := .failed e }
  | .index _ => ofError e.message
  | .library f => ofFailure f

end Outcome

/-- The name of the collection that was imported, if it has one. -/
def Imported.origin (i : Imported) : String :=
  match i.collection with
  | some info => if info.name = "" then "INPX" else info.name
  | none => "INPX"

/-- What is printed about an import. -/
def Imported.printed (i : Imported) (elapsed : Phase → String) : List Printed :=
  let parts := s!"parse {elapsed .reading}, clear {elapsed .clearing}, insert {elapsed .storing}"
  [.line
      [⟨.green, s!"Imported {i.count} book(s)"⟩,
        ⟨.plain, s!" from {i.origin} in {elapsed .whole}"⟩],
    .line [⟨.dim, parts⟩]]

namespace Command

/-- The name of a kind as it is printed. -/
def kindName (kind : Kind) : String :=
  kind.table.name

/-- Rebuilds a library. -/
def runReindex (s : Session) (now : String) (file : Option IndexFile) : Session × Outcome :=
  let (s, reply) := s.reindex {} now defaultInterval file
  match reply.outcome with
  | .error e => (s, { Outcome.ofReindexError e with notices := reply.notices })
  | .ok imported =>
    (s, { ending := .exit 0, printed := imported.printed, notices := reply.notices })

/-- Searches a library. -/
def runSearch (s : Session) (f : Filter) (json : Bool) : Outcome :=
  match s.search f with
  | .error e => .ofFailure e
  | .ok page => if json then .ofJson page.json else .ofPrinted page.printed

/-- Describes a book. -/
def runInfo (s : Session) (id : String) (json : Bool) : Outcome :=
  match s.getBook id with
  | .error e => .ofFailure e
  | .ok none => .ofRed s!"Book {id} not found."
  | .ok (some book) => if json then .ofJson book.json else .ofPrinted [book.printed]

/-- Lists names. -/
def runList (s : Session) (kind : Kind) (limit offset : Int) : Outcome :=
  match s.list kind limit offset with
  | .error e => .ofFailure e
  | .ok page => .ofPrinted (printedNames (kindName kind) page)

/-- Runs a command on a library. `index` finds the index file at a path. -/
def run (s : Session) (now : String) (index : String → IndexFile) : Command → Session × Outcome
  | .reindex path => runReindex s now (path.map index)
  | .search f json => (s, runSearch s f json)
  | .info id json => (s, runInfo s id json)
  | .list kind limit offset => (s, runList s kind limit offset)

end Command

namespace CommandLine

/-- Where a command line is run: the variables of the environment, the home directory, the time, and
the decoders of the installation. -/
structure Environment where
  bindings : List (String × String) := []
  home : Path
  now : String
  codecs : Archive.Codecs := {}

/-- Where the library is unless another place is given. -/
def usualLibrary (home : Path) : Path :=
  { home with names := home.names ++ [".inpxshelf", "library.db"] }

/-- A path that is written leads to a directory. -/
def isDirectory (disk : Disk) (path : String) : Bool :=
  path ≠ "" && disk.isDirectory (Path.ofText path)

/-- Runs a request. -/
def runRequest (disk : Disk) (env : Environment) (r : Request) : Disk × Outcome :=
  let path := (r.library.map Path.ofText).getD (usualLibrary env.home)
  match disk.openLibrary path with
  | (disk, .error e) => (disk, .ofError e.message)
  | (disk, .ok s) =>
    let (s, outcome) := r.command.run s env.now fun path =>
      disk.indexFile env.codecs (Path.ofText path)
    (disk.close path s, outcome)

/-- The levels of notices that are shown. -/
def shows (verbose : Bool) (n : Notice) : Bool :=
  match n.level with
  | .warning => true
  | .info => verbose
  | .debug => false

/-- The commands, and what they take. -/
def helpText : Option CommandSpec → String
  | none => "Commands: " ++ String.intercalate ", " (commandSpecs.map CommandSpec.name) ++ "\n"
  | some spec =>
    String.intercalate " "
      (spec.name :: spec.arguments.map ArgumentSpec.label ++
        spec.options.map fun o => "[" ++ o.name ++ "]") ++ "\n"

/-- The version of the program. -/
def versionText : String := "0.1.0\n"

/-- Runs a command line. -/
def run (disk : Disk) (env : Environment) (words : List String) : Disk × Outcome :=
  match parse { bindings := env.bindings, isDirectory := isDirectory disk } words with
  | .error e => (disk, { ending := .usage e })
  | .ok .nothing => (disk, { ending := .exit 2, output := helpText none })
  | .ok (.help spec) => (disk, { ending := .exit 0, output := helpText spec })
  | .ok .version => (disk, { ending := .exit 0, output := versionText })
  | .ok (.request r) =>
    let (disk, outcome) := runRequest disk env r
    (disk, { outcome with notices := outcome.notices.filter (shows r.verbose) })

end CommandLine

end BookCatalog
