import BookCatalog.CommandLine.Run
import BookCatalog.Disk.File
import BookCatalog.Report.Table
import Std.Time.DateTime.Timestamp

/-!
# The program

Runs the command line on the files that it names: what lies at their paths is read, the command is
run, and libraries that have changed are written back.
-/

namespace BookCatalog.Program

/-- What lies at a path; nothing if there is no such file. On the way to a file, what must not be
read is a directory. -/
def readNode (path : Path) (isLast : Bool) : IO (Option Node) := do
  try
    let file ← IO.FS.Handle.mk path.text .read
    pure (some (Node.ofBytes (← file.readBinToEnd)))
  catch
    | .noFileOrDirectory .. => pure none
    | .inappropriateType .. => pure (some .directory)
    | e@(.permissionDenied ..) => if isLast then throw e else pure (some .directory)
    | e => throw e

/-- Notes what lies where names lead from a directory. -/
def explore (disk : Disk) (here : Path) : List String → IO Disk
  | [] => pure disk
  | name :: rest => do
    match ← readNode (here.enter name) rest.isEmpty with
    | none => pure disk
    | some .directory => explore (disk.put (here.enter name) .directory) (here.enter name) rest
    | some node => pure (disk.put (here.enter name) node)

/-- Notes what lies on the way along paths. -/
def exploreAll (paths : List Path) : IO Disk :=
  paths.foldlM (fun disk path => explore disk path.start path.names) {}

/-- Writes the library at a path, if it has changed, and makes the directories that it lies in. -/
def save (before after : Disk) (path : Path) : IO Unit := do
  if after.isDirectory path.parent then IO.FS.createDirAll path.parent.text
  match before.changed? after path with
  | some lib => IO.FS.writeFile path.text lib.fileText
  | none => pure ()

/-- The variables of the environment that options can be set from. -/
def readBindings : IO (List (String × String)) := do
  let names := (CommandLine.commandSpecs.flatMap fun spec =>
    spec.options.filterMap CommandLine.OptionSpec.environment).eraseDups
  names.filterMapM fun name => do
    pure ((← IO.getEnv name).map fun value => (name, value))

/-- The time as `YYYY-MM-DDTHH:MM:SS`. -/
def readTime : IO String := do
  let seconds := (← Std.Time.Timestamp.now).toSecondsSinceUnixEpoch.val.toNat
  pure ((DateTime.afterSeconds? seconds).elim "" DateTime.iso)

/-- A duration in seconds with two places. -/
def seconds (milliseconds : Nat) : String :=
  let hundredths := milliseconds / 10
  String.ofList ((toString (hundredths / 100)).toList ++ '.' :: padded 2 (hundredths % 100)) ++ "s"

/-- Shows how a run has ended; the exit code. Only the duration of the whole run is known. -/
def report (outcome : Outcome) (elapsed : String) : IO UInt32 := do
  for notice in outcome.notices do
    IO.eprintln (notice.message "-")
  for item in outcome.printed fun phase => if phase = .whole then elapsed else "-" do
    IO.println item.text
  IO.print outcome.output
  match outcome.ending with
  | .exit code => pure (UInt32.ofNat code)
  | .usage cause =>
    IO.eprintln ("Error: " ++ cause.message)
    pure 2
  | .failed cause =>
    IO.eprintln cause.message
    pure 1

end BookCatalog.Program

open BookCatalog Program in
/-- Runs a command line. -/
def main (words : List String) : IO UInt32 := do
  let start ← IO.monoMsNow
  let home := Path.ofText ((← IO.getEnv "HOME").getD "/")
  let env : CommandLine.Environment := { bindings := ← readBindings, home, now := ← readTime }
  let paths := CommandLine.usualLibrary home ::
    (CommandLine.pathsNamed env.bindings words).map Path.ofText
  let before ← exploreAll paths
  let (after, outcome) := CommandLine.run before env words
  paths.forM (save before after)
  report outcome (seconds ((← IO.monoMsNow) - start))
