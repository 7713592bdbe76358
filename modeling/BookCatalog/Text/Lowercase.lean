import BookCatalog.Text.CaseTable

/-!
# Lowercase

`lower` maps every character to its lowercase form. Two rules go beyond a table of pairs: the dotted
capital `İ` becomes two characters, and a capital sigma becomes the final `ς` where it closes a
word.
-/

namespace BookCatalog.Text

/-- The lowercase form of a character that stands alone. -/
def lowerChar (c : Char) : List Char :=
  if c = 'İ' then ['i', '\u0307'] else [shift lowerRuns c]

/-- A character that has case and is not passed over. -/
def isCased (c : Char) : Bool :=
  covers casedSpans c.toNat

/-- A character that is passed over when the context of a sigma is looked at. -/
def isIgnorable (c : Char) : Bool :=
  covers ignorableSpans c.toNat

/-- The nearest character that is not passed over has case. -/
def nextIsCased (cs : List Char) : Bool :=
  match cs.dropWhile isIgnorable with
  | c :: _ => isCased c
  | [] => false

/-- A sigma closes a word when a cased character precedes it and none follows; `before` is the text
in front of it, nearest character first. -/
def closesWord (before after : List Char) : Bool :=
  nextIsCased before && !nextIsCased after

/-- The lowercase form of a character in its context. -/
def lowerIn (before after : List Char) (c : Char) : List Char :=
  if c = 'Σ' then [if closesWord before after then 'ς' else 'σ'] else lowerChar c

/-- The lowercase form of a text that follows `before`, written behind `out`; both are kept last
character first. -/
def lowerFrom (out before : List Char) : List Char → List Char
  | [] => out.reverse
  | c :: rest => lowerFrom ((lowerIn before rest c).reverse ++ out) (c :: before) rest

/-- The lowercase form of a text. -/
def lower (cs : List Char) : List Char :=
  lowerFrom [] [] cs

/-- The lowercase form of a string. -/
def lowercase (s : String) : String :=
  String.ofList (lower s.toList)

end BookCatalog.Text
