import BookCatalog.Entry
import BookCatalog.Text.Blank
import BookCatalog.Text.Number

/-!
# Lines of a listing

A line of a listing has at least thirteen fields, divided by the character U+0004: authors, genre,
title, series, number in the series, id, size, archive, number in the archive, format, date,
language, rating, and sometimes an annotation. `Entry.ofLine?` reads one.
-/

namespace BookCatalog

open Text

namespace Listing

/-- What divides the fields of a line. -/
def separator : Char := '\x04'

/-- The authors of a field: names divided by commas, with one colon allowed at the end of the
field. -/
def authors (field : List Char) : List (List Char) :=
  let names := if field.getLast? = some ':' then field.dropLast else field
  ((splitOn ',' names).map strip).filter (!·.isEmpty)

/-- The year of a date field: the number in its first four characters. -/
def year (field : List Char) : Int :=
  if field.length < 4 then 0 else readIntOrZero (field.take 4)

/-- Reads a month of one or two digits and the hyphen behind it. -/
def month? : List Char → Option (Nat × List Char)
  | '1' :: '0' :: '-' :: rest => some (10, rest)
  | '1' :: '1' :: '-' :: rest => some (11, rest)
  | '1' :: '2' :: '-' :: rest => some (12, rest)
  | '0' :: c :: '-' :: rest => if '1' ≤ c ∧ c ≤ '9' then some (c.toNat - 48, rest) else none
  | c :: '-' :: rest => if '1' ≤ c ∧ c ≤ '9' then some (c.toNat - 48, rest) else none
  | _ => none

/-- Reads a day of one or two digits, at the end of the text. -/
def day? : List Char → Option Nat
  | [c] => if '1' ≤ c ∧ c ≤ '9' then some (c.toNat - 48) else none
  | ['3', '0'] => some 30
  | ['3', '1'] => some 31
  | ['0', c] | [' ', c] => if '1' ≤ c ∧ c ≤ '9' then some (c.toNat - 48) else none
  | [t, c] => if t = '1' ∨ t = '2' then (digitValue? c).map (10 * (t.toNat - 48) + ·) else none
  | _ => none

/-- The date of a date field, `YYYY-MM-DD`, where leading zeros of month and day may be missing. The
year, and the second digit of a day from 10 to 29, may be written in any script. -/
def date? (field : List Char) : Option Date := do
  let digits ← (field.take 4).mapM digitValue?
  match field.drop 4 with
  | '-' :: rest =>
    let (month, rest) ← month? rest
    let day ← day? rest
    if digits.length = 4 then Date.make? (ofDigits digits) month day else none
  | _ => none

end Listing

/-- The book of a line; `none` if the line has too few fields. -/
def Entry.ofLine? (line : List Char) : Option Entry :=
  match splitOn Listing.separator line with
  | authors :: genre :: title :: series :: number :: id :: size :: archive :: fileNum :: format ::
      date :: language :: rating :: more =>
    some
      { id := String.ofList id
        title := String.ofList title
        authors := (Listing.authors authors).map String.ofList
        series := String.ofList series
        seriesNum := readIntOrZero number
        genre := String.ofList genre
        year := Listing.year date
        language := String.ofList language
        fileSize := readIntOrZero size
        archivePath := String.ofList archive
        fileNum := String.ofList fileNum
        format := String.ofList format
        date := (Listing.date? date).map Date.midnight
        rating := readIntOrZero rating
        annotation := String.ofList (more.headD []) }
  | _ => none

end BookCatalog
