import BookCatalog.Text.AlnumTable

/-!
# Letters and digits of any script

`isAlnum` is the class that search tokens are made of; `isWordChar` adds the underscore and decides
where a word begins.
-/

namespace BookCatalog.Text

/-- A letter or digit in any script. -/
def isAlnum (c : Char) : Bool :=
  covers alnumSpans c.toNat

/-- A letter, a digit or an underscore. -/
def isWordChar (c : Char) : Bool :=
  isAlnum c || c == '_'

end BookCatalog.Text
