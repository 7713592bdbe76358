import BookCatalog.Text.Utf8

/-!
# Given texts

A text that a caller hands over may hold halves of surrogate pairs, which are no characters and have
no form in UTF-8. The engine takes texts of characters only, so that binding any other text fails at
the first halves in it. Everywhere else a half counts like the replacement character: it is no
letter, digit or blank and has no case.
-/

namespace BookCatalog

/-- A symbol of a given text: a character, or one of the 2048 halves of surrogate pairs. -/
inductive Symbol where
  | char (c : Char)
  | half (n : Fin 2048)
  deriving DecidableEq, Repr

namespace Symbol

/-- A symbol is a half. -/
def isHalf : Symbol → Bool
  | .char _ => false
  | .half _ => true

/-- The character of a symbol, the replacement character for a half. -/
def shown : Symbol → Char
  | .char c => c
  | .half _ => Text.replacement

end Symbol

/-- The first halves in a text: where they stand, the first of them, and how many others follow it
at once. -/
structure EncodingFault where
  position : Nat
  first : Fin 2048
  others : Nat
  deriving DecidableEq, Repr

/-- The text of a fault. -/
def EncodingFault.message (f : EncodingFault) : String :=
  let place :=
    if f.others = 0 then
      let half := String.ofList (Text.hexDigits 4 (0xD800 + f.first.val))
      s!"character '\\u{half}' in position {f.position}"
    else s!"characters in position {f.position}-{f.position + f.others}"
  s!"'utf-8' codec can't encode {place}: surrogates not allowed"

/-- A text as a caller hands it over. -/
structure Given where
  symbols : List Symbol
  deriving DecidableEq, Repr

namespace Given

/-- A text of characters. -/
def ofText (s : String) : Given :=
  ⟨s.toList.map .char⟩

/-- The text with replacement characters for the halves. -/
def text (g : Given) : String :=
  String.ofList (g.symbols.map Symbol.shown)

/-- The first halves in symbols, the first of which stands at a position. -/
def faultFrom (position : Nat) : List Symbol → Option EncodingFault
  | [] => none
  | .char _ :: rest => faultFrom (position + 1) rest
  | .half n :: rest => some ⟨position, n, (rest.takeWhile Symbol.isHalf).length⟩

/-- Why a text has no form in UTF-8, if it has none. -/
def fault? (g : Given) : Option EncodingFault :=
  faultFrom 0 g.symbols

/-- Characters with the symbols put back that replacement characters stand for, in the order of the
symbols. -/
def restore : List Symbol → List Char → List Symbol
  | _, [] => []
  | [], c :: rest => .char c :: restore [] rest
  | s :: others, c :: rest =>
    if c = Text.replacement then s :: restore others rest else .char c :: restore (s :: others) rest

end Given

end BookCatalog
