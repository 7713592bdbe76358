import BookCatalog.Index.Table
import BookCatalog.Text.Runs

/-!
# Indexed words

The index cuts texts into words by its own table of characters. A combining diacritic does not end a
word and is dropped, letters are folded to one case, and Latin letters lose a single diacritic.
-/

namespace BookCatalog.Index

open Text

/-- A character that begins or continues an indexed word. -/
def isWordPart (c : Char) : Bool :=
  covers wordSpans c.toNat

/-- A combining diacritic that is dropped inside a word. -/
def isDiacritic (c : Char) : Bool :=
  covers diacriticSpans c.toNat

/-- A folded letter without its diacritic. -/
def plain (c : Char) : Char :=
  match plainLetters.find? fun (_, marked) => marked.contains c.toNat with
  | some (letter, _) => letter
  | none => c

/-- The folded form of a character, nothing for a diacritic. -/
def fold? (c : Char) : Option Char :=
  let folded := shift foldRuns c
  if isDiacritic folded then none else some (plain folded)

/-- The word that a run of word characters and diacritics stands for. It begins at the first
character that is no diacritic. -/
def wordOf (run : List Char) : List Char :=
  (run.dropWhile fun c => !isWordPart c).filterMap fold?

/-- The indexed words of a text, in order. -/
def words (cs : List Char) : List (List Char) :=
  ((runs (fun c => isWordPart c || isDiacritic c) cs).map wordOf).filter (!·.isEmpty)

end BookCatalog.Index
