/-!
# Styled text

What a command prints is made of spans of text, each in a style. `Markup.source` writes the spans
with tags around those that are not plain, and `Markup.plain` writes them without.
-/

namespace BookCatalog

/-- How a span looks. -/
inductive Style where
  | plain
  | dim
  | red
  | green
  | yellow
  deriving DecidableEq, Repr

/-- The name of a style; plain text has none. -/
def Style.tag? : Style → Option String
  | .plain => none
  | .dim => some "dim"
  | .red => some "red"
  | .green => some "green"
  | .yellow => some "yellow"

/-- A piece of text in one style. -/
structure Span where
  style : Style
  text : String
  deriving DecidableEq, Repr

/-- The tagged form of a span. -/
def Span.source (s : Span) : String :=
  match s.style.tag? with
  | none => s.text
  | some tag => String.join ["[", tag, "]", s.text, "[/", tag, "]"]

/-- A text made of spans. -/
abbrev Markup := List Span

namespace Markup

/-- Text without a style. -/
def ofText (s : String) : Markup := [⟨.plain, s⟩]

/-- The tagged form of a text. -/
def source (m : Markup) : String :=
  String.join (m.map Span.source)

/-- A text without its styles. -/
def plain (m : Markup) : String :=
  String.join (m.map Span.text)

end Markup

/-- What is printed: a line, or a table of cells under headings. -/
inductive Printed where
  | line (text : Markup)
  | table (headings : List String) (rows : List (List Markup))
  deriving DecidableEq, Repr

end BookCatalog
