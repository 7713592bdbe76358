import BookCatalog.Text.Blank
import BookCatalog.Text.DigitTable

/-!
# Integers in text

A number is written with the decimal digits of any script, an optional sign and single underscores
between digits; blanks around it do not matter. `readInt?` reads it, and refuses a text of more than
`maxDigits` digits.
-/

namespace BookCatalog.Text

/-- The value of a decimal digit in any script. -/
def digitValue? (c : Char) : Option Nat :=
  (digitZeros.find? fun first => first ≤ c.toNat && c.toNat ≤ first + 9).map (c.toNat - ·)

/-- A decimal digit in any script. -/
def isDigit (c : Char) : Bool :=
  (digitValue? c).isSome

/-- The number written by digits, most significant first. -/
def ofDigits (digits : List Nat) : Nat :=
  digits.foldl (fun n d => 10 * n + d) 0

/-- The values of a run of digits with single underscores between them; `none` if the text is not
one. -/
def digitRun? : List Char → Option (List Nat)
  | [] => none
  | [c] => (digitValue? c).map ([·])
  | c :: '_' :: rest => do
    let d ← digitValue? c
    let ds ← digitRun? rest
    pure (d :: ds)
  | c :: rest => do
    let d ← digitValue? c
    let ds ← digitRun? rest
    pure (d :: ds)

/-- The longest number that is read, in digits, leading zeros counted. -/
def maxDigits : Nat := 4300

/-- The unsigned number that a text is, if it is one. A text twice as long as the longest number is
not looked at: no more than every second of its characters could be an underscore. -/
def readNat? (cs : List Char) : Option Nat := do
  if 2 * maxDigits ≤ cs.length then none
  else
    let digits ← digitRun? cs
    if digits.length ≤ maxDigits then some (ofDigits digits) else none

/-- The integer that a text is, with a sign in front and blanks around it allowed. -/
def readInt? (cs : List Char) : Option Int :=
  match strip cs with
  | '-' :: rest => (readNat? rest).map fun n => -(n : Int)
  | '+' :: rest => (readNat? rest).map Int.ofNat
  | rest => (readNat? rest).map Int.ofNat

/-- The integer that a text is, zero for any other text. -/
def readIntOrZero (cs : List Char) : Int :=
  (readInt? cs).getD 0

end BookCatalog.Text
