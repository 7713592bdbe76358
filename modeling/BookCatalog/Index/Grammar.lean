import BookCatalog.Text.Span

/-!
# The language of index expressions

An index expression such as `title:rose* AND (authors:eco* OR series:eco*)` is read in two passes:
`scan` cuts the text into tokens, and a reader for each kind of expression takes what it can from
the front of them. From the loosest to the tightest, the operators are `OR`, `AND` and `NOT`, all of
them to the left; phrases that follow each other without an operator must all hold. Operators are
told from words by their capitals. `read` gives the tree of a text, if it is an expression.
-/

namespace BookCatalog.Index

open Text

/-! ## Tokens -/

/-- A token of an index expression. A text is a bare word or stands in quotes. -/
inductive Token where
  | text (quoted : Bool) (cs : List Char)
  | or
  | and
  | not
  | opening
  | closing
  | openingBrace
  | closingBrace
  | colon
  | comma
  | plus
  | star
  | minus
  | caret
  deriving DecidableEq, Repr

/-- A blank between tokens. -/
def isGap (c : Char) : Bool :=
  c == ' ' || c == '\t' || c == '\n' || c == '\r'

/-- Characters of bare words: ASCII letters and digits, the underscore, the substitute character,
and everything outside ASCII. -/
def bareSpans : List (Nat × Nat) :=
  [(0x1A, 0x1A), (0x30, 0x39), (0x41, 0x5A), (0x5F, 0x5F), (0x61, 0x7A), (0x80, 0x10FFFF)]

/-- A character of a bare word. -/
def isBare (c : Char) : Bool :=
  covers bareSpans c.toNat

/-- The token that a character is by itself. -/
def mark? : Char → Option Token
  | '(' => some .opening
  | ')' => some .closing
  | '{' => some .openingBrace
  | '}' => some .closingBrace
  | ':' => some .colon
  | ',' => some .comma
  | '+' => some .plus
  | '*' => some .star
  | '-' => some .minus
  | '^' => some .caret
  | _ => none

/-- The token that a bare word is: an operator if it reads like one. -/
def bareToken (w : List Char) : Token :=
  if w = ['O', 'R'] then .or
  else if w = ['A', 'N', 'D'] then .and
  else if w = ['N', 'O', 'T'] then .not
  else .text false w

/-- The text up to the closing quote, with doubled quotes made single, and what is behind the
quote. -/
def untilQuote : List Char → Option (List Char × List Char)
  | [] => none
  | '"' :: '"' :: rest => (untilQuote rest).map fun (text, behind) => ('"' :: text, behind)
  | '"' :: rest => some ([], rest)
  | c :: rest => (untilQuote rest).map fun (text, behind) => (c :: text, behind)

/-- What comes behind a closing quote is no longer than what it is found in. -/
theorem untilQuote_length {cs text behind : List Char}
    (found : untilQuote cs = some (text, behind)) :
    behind.length ≤ cs.length := by
  fun_induction untilQuote cs generalizing text with
  | case1 => cases found
  | case2 rest ih =>
    obtain ⟨⟨text', behind'⟩, later, eq⟩ := Option.map_eq_some_iff.1 found
    cases eq
    have shorter := ih later
    simp only [List.length_cons]
    omega
  | case3 =>
    cases found
    simp
  | case4 c rest _ _ ih =>
    obtain ⟨⟨text', behind'⟩, later, eq⟩ := Option.map_eq_some_iff.1 found
    cases eq
    have shorter := ih later
    simp only [List.length_cons]
    omega

/-- The tokens of a text, if it can be cut into tokens. -/
def scan (cs : List Char) : Option (List Token) :=
  match cs with
  | [] => some []
  | c :: rest =>
    if isGap c then scan rest
    else if c = '"' then
      match _ : untilQuote rest with
      | some (text, behind) => (scan behind).map (.text true text :: ·)
      | none => none
    else match mark? c with
      | some t => (scan rest).map (t :: ·)
      | none =>
        if isBare c then
          (scan (rest.dropWhile isBare)).map (bareToken (c :: rest.takeWhile isBare) :: ·)
        else none
termination_by cs.length
decreasing_by
  · simp
  · exact Nat.lt_succ_of_le (untilQuote_length ‹_›)
  · simp
  · exact Nat.lt_succ_of_le (List.dropWhile_suffix _).length_le

/-! ## Trees -/

/-- The columns that something is looked for in, or those that it is not. -/
structure Scope where
  except : Bool
  columns : List String
  deriving DecidableEq, Repr

/-- A text of a phrase. A starred one need only begin its word. -/
structure Part where
  text : List Char
  starred : Bool
  deriving DecidableEq, Repr

/-- What an index expression says: phrases, at the beginning of a column or not; phrases near each
other; and what is made of such conditions. -/
inductive Tree where
  | phrase (scope : Option Scope) (first : Bool) (parts : List Part)
  | near (scope : Option Scope) (phrases : List (List Part)) (distance : Nat)
  | within (scope : Scope) (tree : Tree)
  | or (left right : Tree)
  | and (left right : Tree)
  | not (left right : Tree)
  deriving DecidableEq, Repr

/-! ## Readers -/

/-- What a reader finds at the front of tokens, and the tokens behind it. -/
abbrev Reader (α : Type) := List Token → Option (α × List Token)

section Combinators

variable {α β : Type}

/-- As many as there are, one behind the other. -/
def many (item : Reader α) (ts : List Token) : List α × List Token :=
  match item ts with
  | none => ([], ts)
  | some (a, rest) =>
    if rest.length < ts.length then
      let (others, behind) := many item rest
      (a :: others, behind)
    else ([], ts)
termination_by ts.length

/-- An item, and as many others as there are. -/
def oneOrMore (item other : Reader α) : Reader (α × List α) := fun ts =>
  (item ts).map fun (first, rest) => ((first, (many other rest).1), (many other rest).2)

/-- An item behind a token. -/
def after (t : Token) (item : Reader α) : Reader α
  | [] => none
  | t' :: rest => if t' = t then item rest else none

/-- An item in front of a token. -/
def before (t : Token) (item : Reader α) : Reader α := fun ts =>
  match item ts with
  | some (a, t' :: behind) => if t' = t then some (a, behind) else none
  | _ => none

/-- Items with an operator between them, put together from the left. -/
def chain (op : Token) (join : α → α → α) (operand : Reader α) : Reader α := fun ts =>
  (oneOrMore operand (after op operand) ts).map fun ((first, others), behind) =>
    (others.foldl join first, behind)

end Combinators

/-- The columns of the index. -/
def indexColumns : List String :=
  ["book_id", "title", "annotation", "authors", "series"]

/-- The small form of an ASCII letter. -/
def asciiLower (c : Char) : Char :=
  if 'A' ≤ c ∧ c ≤ 'Z' then Char.ofNat (c.toNat + 32) else c

/-- A column of the index, its name in any case. -/
def column : Reader String
  | .text _ cs :: rest =>
    (indexColumns.find? (·.toList = cs.map asciiLower)).map fun name => (name, rest)
  | _ => none

/-- A column, or several between braces. -/
def columns : Reader (List String)
  | .openingBrace :: rest =>
    (before .closingBrace (oneOrMore column column) rest).map fun ((first, others), behind) =>
      (first :: others, behind)
  | ts => (column ts).map fun (name, rest) => ([name], rest)

/-- Columns with a colon behind them; a minus asks for all the others. -/
def scope : Reader Scope
  | .minus :: rest =>
    (before .colon columns rest).map fun (names, behind) => (⟨true, names⟩, behind)
  | ts => (before .colon columns ts).map fun (names, behind) => (⟨false, names⟩, behind)

/-- A text, with or without a star. -/
def part : Reader Part
  | .text _ cs :: .star :: rest => some (⟨cs, true⟩, rest)
  | .text _ cs :: rest => some (⟨cs, false⟩, rest)
  | _ => none

/-- Texts that follow each other. -/
def phrase : Reader (List Part) := fun ts =>
  (oneOrMore part (after .plus part) ts).map fun ((first, others), behind) =>
    (first :: others, behind)

/-- How far phrases may be apart that are near each other, unless the expression says it. -/
def defaultDistance : Nat := 10

/-- The number that decimal digits stand for. -/
def number? (digits : List Char) : Option Nat :=
  if digits.all Char.isDigit then
    some (digits.foldl (fun n c => 10 * n + (c.toNat - '0'.toNat)) 0)
  else none

/-- Phrases near each other, behind the opening parenthesis. -/
def nearby (columns : Option Scope) : Reader Tree := fun ts =>
  match oneOrMore phrase phrase ts with
  | some ((first, others), .closing :: rest) =>
    some (.near columns (first :: others) defaultDistance, rest)
  | some ((first, others), .comma :: .text false digits :: .closing :: rest) =>
    (number? digits).map fun n => (.near columns (first :: others) n, rest)
  | _ => none

/-- A phrase, a phrase that begins its column, or phrases near each other. -/
def phrases (columns : Option Scope) : Reader Tree
  | .caret :: rest =>
    (phrase rest).map fun (parts, behind) => (.phrase columns true parts, behind)
  | .text false ['N', 'E', 'A', 'R'] :: .opening :: rest => nearby columns rest
  | ts => (phrase ts).map fun (parts, behind) => (.phrase columns false parts, behind)

/-- Phrases, in certain columns or in any. -/
def item : Reader Tree := fun ts =>
  match scope ts with
  | some (columns, rest) => phrases (some columns) rest
  | none => phrases none ts

/-- An expression in parentheses, in certain columns or in any, or phrases that must all hold. -/
def operand (inner : Reader Tree) : Reader Tree := fun ts =>
  match ts, scope ts with
  | .opening :: rest, _ => before .closing inner rest
  | _, some (columns, .opening :: rest) =>
    (before .closing inner rest).map fun (tree, behind) => (.within columns tree, behind)
  | _, _ =>
    (oneOrMore item item ts).map fun ((first, others), behind) => (others.foldl .and first, behind)

/-- The reader of expressions whose parentheses nest less than `depth` deep. -/
def nested : Nat → Reader Tree
  | 0 => fun _ => none
  | depth + 1 => chain .or .or (chain .and .and (chain .not .not (operand (nested depth))))

/-- The tree of an index expression, if a text is one. Parentheses nest no deeper than there are
tokens. -/
def read (cs : List Char) : Option Tree :=
  (scan cs).bind fun tokens =>
    match nested (tokens.length + 1) tokens with
    | some (tree, []) => some tree
    | _ => none

-- `NOT` is tighter than `AND` and `OR`, and a small `not` is a word
example : read "{title authors}: a* OR b + c NOT \"d e\" not".toList =
    some (.or (.phrase (some ⟨false, ["title", "authors"]⟩) false [⟨['a'], true⟩])
      (.not (.phrase none false [⟨['b'], false⟩, ⟨['c'], false⟩])
        (.and (.phrase none false [⟨"d e".toList, false⟩])
          (.phrase none false [⟨"not".toList, false⟩])))) := by
  decide +kernel

end BookCatalog.Index
