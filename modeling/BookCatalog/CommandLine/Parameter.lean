import BookCatalog.Text.Number
import BookCatalog.Text.Quoted

/-!
# Parameters of commands

A command takes options, which are known by their spellings, and arguments, which are known by their
places. Each has a type that says which values it takes.
-/

namespace BookCatalog.CommandLine

/-- What the value of a parameter must be. A file is a path that is not a directory. -/
inductive ValueType where
  | text
  | integer
  | choice (names : List String)
  | path
  | file
  deriving DecidableEq, Repr

/-- An option. One without a type is a flag. `environment` names the environment variable that it
can be set from. -/
structure OptionSpec where
  spellings : List String
  type : Option ValueType := none
  environment : Option String := none
  deriving DecidableEq, Repr

/-- An argument. -/
structure ArgumentSpec where
  label : String
  type : ValueType
  required : Bool
  deriving DecidableEq, Repr

/-- A command. -/
structure CommandSpec where
  name : String
  arguments : List ArgumentSpec
  options : List OptionSpec
  deriving DecidableEq, Repr

/-- What is wrong with a value. -/
inductive BadValue where
  | notInteger (value : String)
  | notAmong (value : String) (names : List String)
  | isDirectory (value : String)
  deriving DecidableEq, Repr

/-- Names as they are listed in a message. -/
def listed (names : List String) : String :=
  String.intercalate ", " (names.map Text.quoted)

/-- The text of what is wrong. -/
def BadValue.message : BadValue → String
  | .notInteger value => Text.quoted value ++ " is not a valid integer."
  | .notAmong value names => Text.quoted value ++ " is not one of " ++ listed names ++ "."
  | .isDirectory value => "File " ++ Text.quoted value ++ " is a directory."

/-- A letter with case ignored. The long s is an s. -/
def foldLetter (c : Char) : Char :=
  if c = 'ſ' then 's' else if 'A' ≤ c ∧ c ≤ 'Z' then Char.ofNat (c.toNat + 32) else c

/-- Two names are the same if case is ignored. -/
def sameName (a b : String) : Bool :=
  a.toList.map foldLetter == b.toList.map foldLetter

/-- What is wrong with a value of a type, if anything. -/
def ValueType.fault? (isDirectory : String → Bool) (value : String) : ValueType → Option BadValue
  | .text | .path => none
  | .integer => if (Text.readInt? value.toList).isSome then none else some (.notInteger value)
  | .choice names => if names.any (sameName value) then none else some (.notAmong value names)
  | .file => if isDirectory value then some (.isDirectory value) else none

/-- The spelling by which an option is known. -/
def OptionSpec.name (o : OptionSpec) : String :=
  o.spellings.getLastD ""

end BookCatalog.CommandLine
