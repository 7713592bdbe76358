import BookCatalog.Text.Alnum
import BookCatalog.Text.Lowercase
import BookCatalog.Text.Runs

/-!
# Search words

A search word is a lowercase run of letters and digits. `words` cuts a text into its words;
everything else only separates them.
-/

namespace BookCatalog.Query

open Text

/-- The word that a run of letters and digits stands for. Lowercasing may put a combining mark
behind a letter, which is no part of the word. -/
def wordOf (run : List Char) : List Char :=
  (lower run).filter isAlnum

/-- The words of a text, in order, repeated ones included. -/
def words (cs : List Char) : List (List Char) :=
  ((runs isAlnum cs).map wordOf).filter (!·.isEmpty)

/-- The first occurrences of the words in a list; empty ones are dropped. -/
def distinct (ws : List (List Char)) : List (List Char) :=
  (ws.filter (!·.isEmpty)).eraseDups

end BookCatalog.Query
