/-!
# Tables of code points

A class of characters is kept as an ascending list of runs. `covers` looks a code point up and stops
at the first run that lies above it. A `CaseRun` moves every `step`-th code point of a run by one
offset, which is how scripts pair their capitals with their small letters.
-/

namespace BookCatalog.Text

/-- Membership in an ascending list of runs `(first, last)`, ends included. -/
def covers : List (Nat × Nat) → Nat → Bool
  | [], _ => false
  | (first, last) :: rest, n => if n < first then false else n ≤ last || covers rest n

/-- The code points `first, first + step, …, last`, each of which maps `offset` further. -/
structure CaseRun where
  first : Nat
  last : Nat
  step : Nat
  offset : Int
  deriving Repr, DecidableEq

/-- Where an ascending list of case runs sends a code point, if it moves it at all. -/
def shifted? : List CaseRun → Nat → Option Nat
  | [], _ => none
  | run :: rest, n =>
    if n < run.first then none
    else if n ≤ run.last then
      if (n - run.first) % run.step = 0 then some ((n : Int) + run.offset).toNat else none
    else shifted? rest n

/-- A character moved by a list of case runs, or left as it is. -/
def shift (runs : List CaseRun) (c : Char) : Char :=
  match shifted? runs c.toNat with
  | some n => Char.ofNat n
  | none => c

end BookCatalog.Text
