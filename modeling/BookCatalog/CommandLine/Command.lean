import BookCatalog.CommandLine.Scan
import BookCatalog.CommandLine.Spec
import BookCatalog.Library.Failure
import BookCatalog.Search.Filter

/-!
# Commands

`CommandLine.parse` reads the words of a command line: `-v`, the name of a command, its options and
its argument. Options that are not given are taken from the environment, where an empty variable
counts for nothing.
-/

namespace BookCatalog

/-- What to do with a library. -/
inductive Command where
  | reindex (index : Option String)
  | search (filter : Filter) (json : Bool)
  | info (id : String) (json : Bool)
  | list (kind : Kind) (limit offset : Int)
  deriving DecidableEq, Repr

/-- A command on the library at a path, or the usual one if none is given. -/
structure Request where
  verbose : Bool
  library : Option String
  command : Command
  deriving DecidableEq, Repr

namespace CommandLine

/-- What surrounds a command line: the variables of the environment, and which paths are
directories. -/
structure Context where
  bindings : List (String × String)
  isDirectory : String → Bool

/-- The words of one command, told apart: the options as they were given, and the values of the
arguments. -/
structure Words where
  context : Context
  given : List Given
  arguments : List (ArgumentSpec × Option String)
  extra : List String

namespace Words

/-- Deals words out to arguments; those that are left over are extra. -/
def deal : List ArgumentSpec → List String → List (ArgumentSpec × Option String) × List String
  | [], words => ([], words)
  | a :: more, [] => ((a, none) :: (deal more []).1, [])
  | a :: more, word :: words =>
    let (dealt, extra) := deal more words
    ((a, some word) :: dealt, extra)

/-- The value of a variable; an empty one counts for nothing. -/
def environment? (w : Words) (name : String) : Option String :=
  (w.context.bindings.lookup name).filter (· ≠ "")

/-- All values given for an option. -/
def all (w : Words) (o : OptionSpec) : List String :=
  (w.given.filter (·.option = o)).filterMap Given.value

/-- The value of an option: the last one given, or else that of its variable. -/
def value? (w : Words) (o : OptionSpec) : Option String :=
  match (w.all o).getLast? with
  | some value => some value
  | none => o.environment.bind w.environment?

/-- An option was given. -/
def has (w : Words) (o : OptionSpec) : Bool :=
  w.given.any (·.option = o)

/-- The number of an option. -/
def integer (w : Words) (o : OptionSpec) (otherwise : Int) : Int :=
  ((w.value? o).bind fun value => Text.readInt? value.toList).getD otherwise

/-- The value of an argument. -/
def argument? (w : Words) (a : ArgumentSpec) : Option String :=
  (w.arguments.lookup a).bind id

/-- The usage error that an option is the cause of, if it is. -/
def optionError? (w : Words) (o : OptionSpec) : Option UsageError := do
  let type ← o.type
  let value ← w.value? o
  let fault ← type.fault? w.context.isDirectory value
  pure (.badOption o fault)

/-- The usage error that an argument is the cause of, if it is. -/
def argumentError? (w : Words) : ArgumentSpec × Option String → Option UsageError
  | (a, none) => if a.required then some (.missingArgument a) else none
  | (a, some value) =>
    (a.type.fault? w.context.isDirectory value).map (.badArgument a)

/-- The first usage error: of the options in the order in which they were given, of the arguments,
of the other options, and of extra words. -/
def error? (w : Words) (options : List OptionSpec) : Option UsageError :=
  let given := (w.given.map Given.option).eraseDups
  let others := options.filter fun o => !given.contains o
  given.findSome? w.optionError? <|>
    w.arguments.findSome? w.argumentError? <|>
    others.findSome? w.optionError? <|>
    (if w.extra.isEmpty then none else some (.extraArguments w.extra))

/-- The filter of a search. -/
def filter (w : Words) : Filter :=
  { query := (w.argument? queryArgument).getD ""
    authors := w.all authorOption
    series := w.all seriesOption
    genres := w.all genreOption
    languages := w.all languageOption
    formats := w.all formatOption
    yearFrom := w.integer yearFromOption 0
    yearTo := w.integer yearToOption 0
    limit := w.integer limitOption defaultLimit
    offset := w.integer offsetOption 0
    sortBy := ((w.value? sortOption).bind fun value => sortKeys.find? (sameName value)).getD ""
    sortOrder := if w.has descendingOption then "desc" else "" }

/-- The kind of names to list. -/
def kind (w : Words) : Kind :=
  let name := (w.argument? kindArgument).getD ""
  if sameName name "series" then .series
  else if sameName name "genres" then .genres
  else .authors

/-- The paths that are given for options. -/
def paths (w : Words) (options : List OptionSpec) : List String :=
  (options.filter fun o => o.type = some .path || o.type = some .file).filterMap w.value?

/-- What a command does. -/
def command (w : Words) (spec : CommandSpec) : Command :=
  if spec = searchSpec then .search w.filter (w.has jsonOption)
  else if spec = infoSpec then .info ((w.argument? idArgument).getD "") (w.has jsonOption)
  else if spec = listSpec then
    .list w.kind (w.integer limitOption defaultLimit) (w.integer offsetOption 0)
  else .reindex (w.value? indexOption)

end Words

/-- What a command line asks for. Without any words it is answered with help too, and ends badly. -/
inductive Asked where
  | nothing
  | help (command : Option CommandSpec)
  | version
  | request (r : Request)
  deriving DecidableEq, Repr

/-- Reads the words behind the name of a command. -/
def parseCommand (context : Context) (verbose : Bool) (spec : CommandSpec) (words : List String) :
    Except UsageError Asked := do
  let s ← scan spec.options true words
  let (arguments, extra) := Words.deal spec.arguments s.rest
  let w : Words := { context, given := s.given, arguments, extra }
  if w.has helpOption then pure (.help (some spec))
  else match w.error? spec.options with
    | some e => .error e
    | none => pure (.request ⟨verbose, w.value? libraryOption, w.command spec⟩)

/-- The paths that the words of a command line name. Words that cannot be told apart name none. -/
def pathsNamed (bindings : List (String × String)) (words : List String) : List String :=
  let paths : Except UsageError (List String) := do
    let main ← scan mainOptions false words
    match main.rest with
    | [] => pure []
    | word :: rest =>
      match commandSpecs.find? (·.name = word) with
      | none => pure []
      | some spec =>
        let s ← scan spec.options true rest
        let w : Words := ⟨⟨bindings, fun _ => false⟩, s.given, [], []⟩
        pure (w.paths spec.options)
  paths.toOption.getD []

/-- A word that is no command. Behind a hyphen it may be an option that is not known. -/
def noCommand {α : Type} (word : String) (words : List String) : Except UsageError α := do
  let _ ← if word.startsWith "-" then scan mainOptions false (word :: words) else pure ⟨[], []⟩
  .error (.noSuchCommand word (similar word (commandSpecs.map CommandSpec.name)))

/-- Reads the words of a command line. -/
def parse (context : Context) (words : List String) : Except UsageError Asked := do
  if words.isEmpty then pure .nothing
  else
    let s ← scan mainOptions false words
    let has := fun o => s.given.any (·.option = o)
    match s.given.find? (fun g => g.option = versionOption || g.option = helpOption) with
    | some g => pure (if g.option = versionOption then .version else .help none)
    | none =>
      match s.rest with
      | [] => .error .missingCommand
      | word :: rest =>
        match commandSpecs.find? (·.name = word) with
        | some spec => parseCommand context (has verboseOption) spec rest
        | none => noCommand word rest

end CommandLine

end BookCatalog
