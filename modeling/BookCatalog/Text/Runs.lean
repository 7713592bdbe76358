/-!
# Cutting text into pieces

`runs p` gives the maximal runs of characters in a class, `splitOn sep` the fields between
separators.
-/

namespace BookCatalog.Text

/-- A finished run, kept last character first; an empty one is none. -/
def closeRun (run : List Char) (done : List (List Char)) : List (List Char) :=
  if run.isEmpty then done else run.reverse :: done

/-- The runs of a text behind a run that is still open; `done` and `run` are kept last first. -/
def runsFrom (p : Char → Bool) (done : List (List Char)) (run : List Char) :
    List Char → List (List Char)
  | [] => (closeRun run done).reverse
  | c :: rest =>
    if p c then runsFrom p done (c :: run) rest else runsFrom p (closeRun run done) [] rest

/-- The maximal runs of characters in a class, in order. -/
def runs (p : Char → Bool) (cs : List Char) : List (List Char) :=
  runsFrom p [] [] cs

/-- One character in front of the fields of the text behind it. -/
def prependField (sep c : Char) : List (List Char) → List (List Char)
  | [] => [[c]]
  | field :: fields => if c = sep then [] :: field :: fields else (c :: field) :: fields

/-- The fields between separators; a text without separators is one field. -/
def splitOn (sep : Char) (cs : List Char) : List (List Char) :=
  cs.foldr (prependField sep) [[]]

/-- Texts put one behind the other with a separator between. -/
def joinWith (sep : List Char) : List (List Char) → List Char
  | [] => []
  | first :: rest => first ++ rest.flatMap (sep ++ ·)

end BookCatalog.Text
