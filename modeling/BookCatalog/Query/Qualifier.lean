import BookCatalog.Text.Alnum
import BookCatalog.Text.Blank
import BookCatalog.Text.Lowercase

/-!
# Qualifiers in a query

A qualifier is the name of a column, a colon and a value: `author:eco`, `title:"the rose"`.
`segments` cuts a query into the qualifiers and the gaps between them, from left to right. A
qualifier begins where a word begins, its name is matched letter by letter without regard to case,
and its value ends at the closing quote or, if there is none, at the next blank.
-/

namespace BookCatalog.Query

open Text

/-- The columns of the index that a search can name. -/
inductive Column where
  | title
  | annotation
  | authors
  | series
  deriving DecidableEq, Repr

/-- The name of a column in an index expression. -/
def Column.name : Column → String
  | .title => "title"
  | Column.annotation => "annotation"
  | .authors => "authors"
  | .series => "series"

/-- The columns in the order in which a word without qualifier is looked for. -/
def Column.all : List Column :=
  [.title, Column.annotation, .authors, .series]

/-- The spellings of the columns, English and Russian. -/
def spellings : List (List Char × Column) :=
  [("author".toList, .authors), ("authors".toList, .authors), ("автор".toList, .authors),
    ("авторы".toList, .authors), ("series".toList, .series), ("серия".toList, .series),
    ("серии".toList, .series), ("title".toList, .title), ("название".toList, .title),
    ("annotation".toList, Column.annotation), ("описание".toList, Column.annotation),
    ("description".toList, Column.annotation)]

/-- The column that a name stands for, in any case. -/
def Column.ofName? (name : List Char) : Option Column :=
  spellings.lookup (lower name)

/-- Letters that count as another letter when case is ignored, though lowercasing does not lead
there. -/
def lookalikes : List (Char × Char) :=
  [('ſ', 's'), ('ı', 'i'), ('İ', 'i'), ('\u1C80', 'в'), ('\u1C81', 'д'), ('\u1C82', 'о'),
    ('\u1C83', 'с'), ('\u1C84', 'т'), ('\u1C85', 'т'), ('\u1C86', 'ъ')]

/-- A character is a given small letter, case ignored. -/
def isLetter (letter c : Char) : Bool :=
  shift lowerRuns c == letter || lookalikes.lookup c == some letter

/-- Matches a spelling and a colon at the front of a text: the name as it is written, and the text
behind the colon. -/
def matchSpelling : List Char → List Char → Option (List Char × List Char)
  | [], ':' :: rest => some ([], rest)
  | [], _ => none
  | _ :: _, [] => none
  | letter :: letters, c :: rest =>
    if isLetter letter c then
      (matchSpelling letters rest).map fun (name, behind) => (c :: name, behind)
    else none

/-- The position behind the quote that closes a value, counted on from `n`. A backslash protects the
character behind it, but no line break. -/
def closingQuote (n : Nat) : List Char → Option Nat
  | [] => none
  | '"' :: _ => some (n + 1)
  | ['\\'] => none
  | '\\' :: c :: rest => if c = '\n' then none else closingQuote (n + 2) rest
  | _ :: rest => closingQuote (n + 1) rest

/-- The length of a value that ends at the next blank. -/
def bareLength (cs : List Char) : Nat :=
  (cs.takeWhile fun c => !isBlank c).length

/-- The length of the value at the front of a text, zero if there is none. -/
def valueLength (cs : List Char) : Nat :=
  match cs with
  | '"' :: rest => (closingQuote 1 rest).getD (bareLength cs)
  | _ => bareLength cs

/-- The name and the value of a qualifier, as they are written. -/
structure Qualifier where
  name : List Char
  value : List Char
  deriving DecidableEq, Repr

/-- The text of a qualifier. -/
def Qualifier.source (q : Qualifier) : List Char :=
  q.name ++ ':' :: q.value

/-- The qualifier at the front of a text, if there is one. -/
def Qualifier.at? (cs : List Char) : Option Qualifier :=
  spellings.findSome? fun (spelling, _) =>
    match matchSpelling spelling cs with
    | some (name, behind) =>
      let n := valueLength behind
      if n = 0 then none else some ⟨name, behind.take n⟩
    | none => none

/-- A piece of a query. -/
inductive Segment where
  | gap (text : List Char)
  | qualifier (q : Qualifier)
  deriving DecidableEq, Repr

/-- The text of a piece. -/
def Segment.source : Segment → List Char
  | .gap text => text
  | .qualifier q => q.source

/-- A finished gap, kept last character first; an empty one is none. -/
def closeGap (gap : List Char) (done : List Segment) : List Segment :=
  if gap.isEmpty then done else .gap gap.reverse :: done

/-- The last character of a text is part of a word. -/
def endsInWord (cs : List Char) : Bool :=
  match cs.getLast? with
  | some c => isWordChar c
  | none => false

/-- The pieces of a text behind an open gap; `done` and `gap` are kept last first, and `inWord` says
that the character in front is part of a word. -/
def segmentsFrom (done : List Segment) (gap : List Char) (inWord : Bool)
    (cs : List Char) : List Segment :=
  match cs with
  | [] => (closeGap gap done).reverse
  | c :: rest =>
    match if inWord then none else Qualifier.at? (c :: rest) with
    | some q =>
      segmentsFrom (.qualifier q :: closeGap gap done) [] (endsInWord q.value)
        (rest.drop (q.source.length - 1))
    | none => segmentsFrom done (c :: gap) (isWordChar c) rest
termination_by cs.length
decreasing_by
  all_goals simp only [List.length_drop, List.length_cons]; omega

/-- The pieces of a query, from left to right. -/
def segments (cs : List Char) : List Segment :=
  segmentsFrom [] [] false cs

/-- A text with each backslash dropped in favour of the character behind it, written behind `out`,
which is kept last character first. A lone backslash at the end stays. -/
def unescapeFrom (out : List Char) : List Char → List Char
  | [] => out.reverse
  | ['\\'] => ('\\' :: out).reverse
  | '\\' :: c :: rest => unescapeFrom (c :: out) rest
  | c :: rest => unescapeFrom (c :: out) rest

/-- The text inside quotes, escapes resolved, if a text is quoted. -/
def insideQuotes? (cs : List Char) : Option (List Char) :=
  match cs with
  | '"' :: rest =>
    if rest.getLast? = some '"' then some (unescapeFrom [] rest.dropLast) else none
  | _ => none

/-- The text that a value stands for: without blanks around it and, if it is quoted, without quotes
and with its escapes resolved. -/
def unquote (value : List Char) : List Char :=
  (insideQuotes? (strip value)).getD (strip value)

end BookCatalog.Query
