import BookCatalog.Text.Span
import BookCatalog.Text.PrintableTable

/-!
# Quoted text in messages

A message shows a text between single quotes, or between double quotes if it holds a single quote
and no double one. Backslashes, the quote in use and characters without a visible form are written
as escapes. The same form serves byte strings, with a `b` in front and every byte outside ASCII
escaped.
-/

namespace BookCatalog.Text

/-- A lowercase hexadecimal number, filled with zeros to a width. -/
def hexDigits (width n : Nat) : List Char :=
  let digits := Nat.toDigits 16 n
  List.replicate (width - digits.length) '0' ++ digits

/-- The quote that a text is shown between. -/
def quoteFor (cs : List Char) : Char :=
  if cs.contains '\'' && !cs.contains '"' then '"' else '\''

/-- The escape of a control that has a letter of its own. -/
def letterEscape? : Char → Option (List Char)
  | '\n' => some ['\\', 'n']
  | '\r' => some ['\\', 'r']
  | '\t' => some ['\\', 't']
  | _ => none

/-- The escape of a character by its code: two, four or eight digits. -/
def codeEscape (n : Nat) : List Char :=
  if n < 0x100 then '\\' :: 'x' :: hexDigits 2 n
  else if n < 0x10000 then '\\' :: 'u' :: hexDigits 4 n
  else '\\' :: 'U' :: hexDigits 8 n

/-- One character of a quoted text. -/
def quotedChar (quote c : Char) : List Char :=
  if c = quote || c = '\\' then ['\\', c]
  else match letterEscape? c with
    | some escape => escape
    | none => if covers invisibleSpans c.toNat then codeEscape c.toNat else [c]

/-- A text as messages show it. -/
def quoted (s : String) : String :=
  let cs := s.toList
  let quote := quoteFor cs
  String.ofList (quote :: cs.flatMap (quotedChar quote) ++ [quote])

/-- One byte of a quoted byte string. -/
def quotedByte (quote : Char) (b : UInt8) : List Char :=
  let c := Char.ofNat b.toNat
  if c = quote || c = '\\' then ['\\', c]
  else match letterEscape? c with
    | some escape => escape
    | none => if b.toNat < 0x20 || 0x7F ≤ b.toNat then codeEscape b.toNat else [c]

/-- A byte string as messages show it. -/
def quotedBytes (bytes : List UInt8) : String :=
  let quote := quoteFor (bytes.map fun b => Char.ofNat b.toNat)
  String.ofList ('b' :: quote :: bytes.flatMap (quotedByte quote) ++ [quote])

end BookCatalog.Text
