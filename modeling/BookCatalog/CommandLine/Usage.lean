import BookCatalog.CommandLine.Parameter

/-!
# Usage errors

Why words do not make up a command.
-/

namespace BookCatalog.CommandLine

/-- Why words do not make up a command. `close` are spellings that may have been meant. -/
inductive UsageError where
  | noSuchOption (spelling : String) (close : List String)
  | valueMissing (spelling : String)
  | valueForFlag (spelling : String)
  | missingCommand
  | noSuchCommand (name : String) (close : List String)
  | missingArgument (argument : ArgumentSpec)
  | badOption (o : OptionSpec) (fault : BadValue)
  | badArgument (argument : ArgumentSpec) (fault : BadValue)
  | extraArguments (words : List String)
  deriving DecidableEq, Repr

/-- The question after a word that is not known. -/
def suggestion (close : List String) : String :=
  match close with
  | [] => ""
  | [one] => " Did you mean " ++ Text.quoted one ++ "?"
  | many => " (Did you mean one of: " ++ listed many ++ "?)"

/-- The names to choose from. -/
def choices : ValueType → String
  | .choice names => " Choose from:" ++ String.intercalate "," (names.map ("\n\t" ++ ·))
  | _ => ""

/-- A label between quotes. -/
def hint (label : String) : String :=
  "'" ++ label ++ "'"

/-- The text of a usage error. -/
def UsageError.message : UsageError → String
  | .noSuchOption spelling close =>
    "No such option " ++ Text.quoted spelling ++ "." ++ suggestion close
  | .valueMissing spelling => "Option " ++ Text.quoted spelling ++ " requires an argument."
  | .valueForFlag spelling => "Option " ++ Text.quoted spelling ++ " does not take a value."
  | .missingCommand => "Missing command."
  | .noSuchCommand name close =>
    "No such command " ++ Text.quoted name ++ "." ++ suggestion close
  | .missingArgument argument =>
    "Missing argument " ++ hint argument.label ++ "." ++ choices argument.type
  | .badOption o fault =>
    "Invalid value for " ++ String.intercalate " / " (o.spellings.map hint) ++ ": " ++ fault.message
  | .badArgument argument fault =>
    "Invalid value for " ++ hint argument.label ++ ": " ++ fault.message
  | .extraArguments words =>
    (if words.length = 1 then "Got unexpected extra argument ("
      else "Got unexpected extra arguments (") ++ String.intercalate " " words ++ ")"

end BookCatalog.CommandLine
