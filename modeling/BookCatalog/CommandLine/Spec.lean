import BookCatalog.CommandLine.Parameter

/-!
# The commands and their parameters

What the program can be asked to do: to rebuild the library, to search it, to describe a book, and
to list names.
-/

namespace BookCatalog.CommandLine

/-- An option that shows how a command is used. -/
def helpOption : OptionSpec := { spellings := ["--help"] }

/-- The option for the library. -/
def libraryOption : OptionSpec :=
  { spellings := ["--db"], type := some .path, environment := some "INPXSHELF_DB" }

/-- The option for the index file. -/
def indexOption : OptionSpec :=
  { spellings := ["--inpx"], type := some .file, environment := some "INPXSHELF_INPX" }

/-- The option for the size of a page. -/
def limitOption : OptionSpec :=
  { spellings := ["--limit"], type := some .integer, environment := some "INPXSHELF_PAGE_SIZE" }

/-- The option for the number of rows to skip. -/
def offsetOption : OptionSpec := { spellings := ["--offset"], type := some .integer }

/-- The option for output as JSON. -/
def jsonOption : OptionSpec := { spellings := ["--json"] }

/-- The option for the name of an author; it can be given more than once. -/
def authorOption : OptionSpec := { spellings := ["--author"], type := some .text }

/-- The option for the name of a series; it can be given more than once. -/
def seriesOption : OptionSpec := { spellings := ["--series"], type := some .text }

/-- The option for the name of a genre; it can be given more than once. -/
def genreOption : OptionSpec := { spellings := ["--genre"], type := some .text }

/-- The option for a language; it can be given more than once. -/
def languageOption : OptionSpec := { spellings := ["--lang"], type := some .text }

/-- The option for a file format; it can be given more than once. -/
def formatOption : OptionSpec := { spellings := ["--format"], type := some .text }

/-- The option for the earliest year. -/
def yearFromOption : OptionSpec := { spellings := ["--year-from"], type := some .integer }

/-- The option for the latest year. -/
def yearToOption : OptionSpec := { spellings := ["--year-to"], type := some .integer }

/-- The keys to sort by. -/
def sortKeys : List String := ["title", "year", "date_added", "relevance"]

/-- The option for the key to sort by. -/
def sortOption : OptionSpec := { spellings := ["--sort"], type := some (.choice sortKeys) }

/-- The option for the reverse order. -/
def descendingOption : OptionSpec := { spellings := ["--desc"] }

/-- The option that shows the version of the program. -/
def versionOption : OptionSpec := { spellings := ["--version"] }

/-- The option for notices of progress. -/
def verboseOption : OptionSpec := { spellings := ["-v", "--verbose"] }

/-- The options in front of a command. -/
def mainOptions : List OptionSpec := [versionOption, verboseOption, helpOption]

/-- The kinds of names that can be listed. -/
def kindNames : List String := ["authors", "series", "genres"]

/-- The argument of a search. -/
def queryArgument : ArgumentSpec := { label := "[QUERY]", type := .text, required := false }

/-- The argument for a book. -/
def idArgument : ArgumentSpec := { label := "BOOK_ID", type := .text, required := true }

/-- The argument for a kind of name. -/
def kindArgument : ArgumentSpec :=
  { label := "\x7b" ++ String.intercalate "|" kindNames ++ "\x7d"
    type := .choice kindNames
    required := true }

/-- The command that rebuilds the library. -/
def reindexSpec : CommandSpec :=
  { name := "reindex", arguments := [], options := [indexOption, libraryOption, helpOption] }

/-- The command that searches the library. -/
def searchSpec : CommandSpec :=
  { name := "search"
    arguments := [queryArgument]
    options := [authorOption, seriesOption, genreOption, languageOption, formatOption,
      yearFromOption, yearToOption, sortOption, descendingOption, jsonOption, limitOption,
      offsetOption, libraryOption, helpOption] }

/-- The command that describes a book. -/
def infoSpec : CommandSpec :=
  { name := "info", arguments := [idArgument], options := [jsonOption, libraryOption, helpOption] }

/-- The command that lists names. -/
def listSpec : CommandSpec :=
  { name := "ls"
    arguments := [kindArgument]
    options := [limitOption, offsetOption, libraryOption, helpOption] }

/-- The commands. -/
def commandSpecs : List CommandSpec := [reindexSpec, searchSpec, infoSpec, listSpec]

end BookCatalog.CommandLine
