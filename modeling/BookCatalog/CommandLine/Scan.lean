import BookCatalog.CommandLine.Similar
import BookCatalog.CommandLine.Usage

/-!
# Telling options from arguments

A word that starts with a hyphen is an option, or several options of one letter; the value of an
option is the next word or, behind an equals sign, the rest of its own. Two hyphens end the options.
-/

namespace BookCatalog.CommandLine

/-- An option as it was given, with its value if it has one. -/
structure Given where
  option : OptionSpec
  value : Option String
  deriving DecidableEq, Repr

/-- The words scanned so far: the options given, last first, the other words, last first, the option
that still lacks its value, and whether options have ended. -/
structure Scanner where
  given : List Given := []
  rest : List String := []
  pending : Option (String × OptionSpec) := none
  ended : Bool := false

/-- The options given and the other words, in order. -/
structure Scan where
  given : List Given
  rest : List String
  deriving DecidableEq, Repr

namespace Scanner

/-- An option of one letter. -/
def isShort (spelling : String) : Bool :=
  spelling.length = 2

/-- The option of a spelling. -/
def option? (options : List OptionSpec) (spelling : String) : Option OptionSpec :=
  options.find? (·.spellings.contains spelling)

/-- Notes an option, and its value if that is there already. -/
def note (s : Scanner) (spelling : String) (o : OptionSpec) (value : Option String) : Scanner :=
  if o.type.isSome && value.isNone then { s with pending := some (spelling, o) }
  else { s with given := ⟨o, value⟩ :: s.given }

/-- Takes options of one letter that stand together; what follows one with a value is its value. -/
def takeLetters (options : List OptionSpec) (s : Scanner) : List Char → Except UsageError Scanner
  | [] => .ok s
  | c :: letters =>
    let spelling := String.ofList ['-', c]
    match option? options spelling with
    | none => .error (.noSuchOption spelling [])
    | some o =>
      if o.type.isSome && !letters.isEmpty then
        .ok (s.note spelling o (some (String.ofList letters)))
      else takeLetters options (s.note spelling o none) letters

/-- A word up to its first equals sign, and what follows the sign. -/
def splitValue (word : List Char) : List Char × Option String :=
  let name := word.takeWhile (· ≠ '=')
  match word.drop name.length with
  | [] => (name, none)
  | _ :: value => (name, some (String.ofList value))

/-- Takes a word that is written like an option. -/
def takeOption (options : List OptionSpec) (s : Scanner)
    (word : String) : Except UsageError Scanner :=
  let (name, value) := splitValue word.toList
  let spelling := String.ofList name
  let long := options.flatMap fun o => o.spellings.filter (!isShort ·)
  match option? options spelling with
  | some o =>
    if isShort spelling then takeLetters options s word.toList.tail
    else if o.type.isNone && value.isSome then .error (.valueForFlag spelling)
    else .ok (s.note spelling o value)
  | none =>
    if word.startsWith "--" then .error (.noSuchOption spelling (similar spelling long))
    else takeLetters options s word.toList.tail

/-- Takes the next word. Unless options and other words may be mixed, the first other word ends the
options. -/
def step (options : List OptionSpec) (mixed : Bool) (s : Scanner)
    (word : String) : Except UsageError Scanner :=
  match s.pending with
  | some (_, o) => .ok { s with given := ⟨o, some word⟩ :: s.given, pending := none }
  | none =>
    if s.ended then .ok { s with rest := word :: s.rest }
    else if word = "--" then .ok { s with ended := true }
    else if word.startsWith "-" && word ≠ "-" then s.takeOption options word
    else .ok { s with rest := word :: s.rest, ended := !mixed }

end Scanner

/-- Scans words. -/
def scan (options : List OptionSpec) (mixed : Bool) (words : List String) :
    Except UsageError Scan := do
  let s ← words.foldlM (Scanner.step options mixed) {}
  match s.pending with
  | some (spelling, _) => .error (.valueMissing spelling)
  | none => pure ⟨s.given.reverse, s.rest.reverse⟩

end BookCatalog.CommandLine
