/-!
# Freshness

Whether the index is known to be empty. The knowledge is good for one use: whoever asks for it takes
it away.
-/

namespace BookCatalog

/-- Whether the index is known to be empty. -/
structure Freshness where
  known : Bool := false
  deriving DecidableEq, Repr

namespace Freshness

/-- The index has been emptied. -/
def mark : Freshness := ⟨true⟩

/-- What is known, and what is known after that: nothing. -/
def consume (f : Freshness) : Bool × Freshness := (f.known, ⟨false⟩)

end Freshness

end BookCatalog
