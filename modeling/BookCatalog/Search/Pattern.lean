/-!
# Patterns

In a pattern, `%` stands for any text, `_` for any character, and a backslash takes the character
behind it literally. Letters of ASCII match without regard to case, and U+FFFE and U+FFFF, which are
no characters, count as U+FFFD. Pattern and text both end at the first U+0000.
-/

namespace BookCatalog.Pattern

/-- A letter of ASCII in lower case; other characters stay. -/
def asciiLower (c : Char) : Char :=
  if 'A' ≤ c ∧ c ≤ 'Z' then Char.ofNat (c.toNat + 32) else c

/-- A character as a match reads it: U+FFFE and U+FFFF become U+FFFD. -/
def readAs (c : Char) : Char :=
  if c = '\uFFFE' ∨ c = '\uFFFF' then '\uFFFD' else c

/-- What a character counts as in a match. -/
def letter (c : Char) : Char :=
  asciiLower (readAs c)

/-- Two characters count as the same, up to the case of ASCII letters. -/
def sameLetter (c d : Char) : Bool :=
  letter c == letter d

/-- A pattern matches a whole text. -/
def accepts : List Char → List Char → Bool
  | [], cs => cs.isEmpty
  | ['\\'], _ => false
  | '\\' :: _ :: _, [] => false
  | '\\' :: c :: p, d :: cs => sameLetter c d && accepts p cs
  | '%' :: p, [] => accepts p []
  | '%' :: p, d :: cs => accepts p (d :: cs) || accepts ('%' :: p) cs
  | '_' :: _, [] => false
  | '_' :: p, _ :: cs => accepts p cs
  | _ :: _, [] => false
  | c :: p, d :: cs => sameLetter c d && accepts p cs
termination_by p cs => p.length + cs.length

/-- The part of a text in front of the first U+0000. -/
def terminated (cs : List Char) : List Char :=
  cs.takeWhile (· ≠ '\x00')

/-- A pattern matches a text, up to their first U+0000. -/
def fits (p cs : List Char) : Bool :=
  accepts (terminated p) (terminated cs)

/-- The longest pattern that the engine takes, in bytes. -/
def maxSize : Nat := 50000

/-- The engine refuses a pattern of this length. -/
def isTooComplex (p : List Char) : Bool :=
  maxSize < (String.ofList p).utf8ByteSize

end BookCatalog.Pattern
