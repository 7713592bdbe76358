import BookCatalog.Text.Runs
import BookCatalog.Text.Span

/-!
# Blank characters

Blanks are the space, the ASCII layout controls and separators, and the spaces and line breaks of
other scripts. `strip` removes them at both ends, `squeeze` also makes one space of every run
between words.
-/

namespace BookCatalog.Text

/-- Runs of blanks, ascending. -/
def blankSpans : List (Nat × Nat) :=
  [(0x09, 0x0D), (0x1C, 0x20), (0x85, 0x85), (0xA0, 0xA0), (0x1680, 0x1680), (0x2000, 0x200A),
    (0x2028, 0x2029), (0x202F, 0x202F), (0x205F, 0x205F), (0x3000, 0x3000)]

/-- A blank: a space, tab, line break or another separator. -/
def isBlank (c : Char) : Bool :=
  covers blankSpans c.toNat

/-- A text without the blanks at its end. -/
def stripEnd (cs : List Char) : List Char :=
  (cs.reverse.dropWhile isBlank).reverse

/-- A text without the blanks at both ends. -/
def strip (cs : List Char) : List Char :=
  stripEnd (cs.dropWhile isBlank)

/-- Runs of blanks become single spaces, and none is left at the ends. -/
def squeeze (cs : List Char) : List Char :=
  joinWith [' '] (runs (fun c => !isBlank c) cs)

/-- `squeeze` on strings. -/
def normalizeBlanks (s : String) : String :=
  String.ofList (squeeze s.toList)

end BookCatalog.Text
