/-!
# Column values

What a column of the library's tables can hold, and what a search binds to a placeholder: nothing,
an integer or a text.
-/

namespace BookCatalog

/-- The value of a column, or of an argument. -/
inductive Value where
  | null
  | integer (n : Int)
  | text (s : String)
  deriving DecidableEq, Repr

/-- An integer that fits a column: 64 bits with sign. -/
def fitsColumn (n : Int) : Bool :=
  -9223372036854775808 ≤ n && n ≤ 9223372036854775807

namespace Value

/-- A value that may be missing. -/
def ofInt? (n : Option Int) : Value :=
  n.elim .null .integer

/-- A text that may be missing. -/
def ofText? (s : Option String) : Value :=
  s.elim .null .text

/-- A value that a column can hold. -/
def fits : Value → Bool
  | .integer n => fitsColumn n
  | _ => true

end Value

end BookCatalog
