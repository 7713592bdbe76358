import BookCatalog.Text.Runs

/-!
# Records

A record is a line of fields with tabs between them. A field holds a text or is missing. Inside a
text, a backslash, a tab and a line break are written with a backslash in front; a missing field is
written `\-`.
-/

namespace BookCatalog

/-- The fields of a line. -/
abbrev Record := List (Option String)

namespace Record

open Text

/-- One character of a field. -/
def escaped : Char → List Char
  | '\\' => ['\\', '\\']
  | '\t' => ['\\', 't']
  | '\n' => ['\\', 'n']
  | c => [c]

/-- The written form of a field. -/
def field : Option String → List Char
  | none => ['\\', '-']
  | some s => s.toList.flatMap escaped

/-- The line of a record, without a line break. -/
def line (r : Record) : List Char :=
  joinWith ['\t'] (r.map field)

/-- The character that is written by a backslash and another character. -/
def unescaped? : Char → Option Char
  | '\\' => some '\\'
  | 't' => some '\t'
  | 'n' => some '\n'
  | _ => none

/-- A text with its escapes resolved, written behind `out`, which is kept last character first. -/
def resolveFrom (out : List Char) : List Char → Option (List Char)
  | [] => some out.reverse
  | ['\\'] => none
  | '\\' :: c :: rest => (unescaped? c).bind fun c => resolveFrom (c :: out) rest
  | c :: rest => resolveFrom (c :: out) rest

/-- The field that a text writes. -/
def readField (cs : List Char) : Option (Option String) :=
  if cs = ['\\', '-'] then some none
  else (resolveFrom [] cs).map fun cs => some (String.ofList cs)

/-- The record that a line writes. -/
def ofLine? (cs : List Char) : Option Record :=
  (splitOn '\t' cs).mapM readField

end Record

end BookCatalog
