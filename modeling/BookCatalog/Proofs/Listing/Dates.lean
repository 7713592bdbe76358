import BookCatalog.Listing.Basic
import BookCatalog.Proofs.Calendar.Iso
import BookCatalog.Proofs.Text.Number

/-!
# Dates of listings

The year and the date of a book are read from the same field, each in its own way. Where a date is
read, in digits of whatever script, the year is the year of the date (`year_of_date?`), so that the
books of a listing are dated by their years (`dated_of_mem_books`). A day that is written is read
back (`date?_isoChars`).
-/

namespace BookCatalog

/-- The date of a book, if there is one, is the first moment of a day of its year. -/
def Entry.Dated (e : Entry) : Prop :=
  ∀ dt, e.date = some dt → ∃ d : Date, dt = d.midnight ∧ e.year = d.year

/-- A date that is made of a year has this year. -/
lemma Date.year_of_make? {year month day : Nat} {d : Date}
    (made : Date.make? year month day = some d) :
    d.year = year := by
  rw [Date.make?] at made
  split at made
  · cases made
    rfl
  · cases made

namespace Listing

open Text

variable {field line text member : List Char} {d : Date} {e : Entry}

/-! ## Reading -/

/-- A date begins with the four digits of its year, and goes on behind them. -/
lemma digits_of_date? (read : date? field = some d) :
    4 < field.length ∧ ∃ ds, (field.take 4).mapM digitValue? = some ds ∧ ofDigits ds = d.year := by
  rw [date?] at read
  obtain ⟨ds, values, read⟩ := Option.bind_eq_some_iff.1 read
  split at read
  · next rest behind =>
    obtain ⟨⟨month, rest⟩, -, read⟩ := Option.bind_eq_some_iff.1 read
    obtain ⟨day, -, read⟩ := Option.bind_eq_some_iff.1 read
    have long : 0 < (field.drop 4).length := by
      rw [behind]
      exact Nat.succ_pos _
    rw [List.length_drop] at long
    split at read
    · exact ⟨by omega, ds, values, (Date.year_of_make? read).symm⟩
    · cases read
  · cases read

/-- The year of a field with a date is the year of the date. -/
theorem year_of_date? (read : date? field = some d) : year field = d.year := by
  obtain ⟨long, ds, values, number⟩ := digits_of_date? read
  have length : (field.take 4).length = 4 := by
    rw [List.length_take]
    omega
  have some : field.take 4 ≠ [] := List.ne_nil_of_length_pos (by omega)
  rw [year, if_neg (by omega), readIntOrZero_of_values some values (by rw [length]; decide), number]

/-- The entry of a line is dated as its date field says. -/
lemma dated_of_ofLine? (read : Entry.ofLine? line = some e) : e.Dated := by
  rw [Entry.ofLine?] at read
  split at read
  · cases read
    intro dt dated
    obtain ⟨d, found, rfl⟩ := Option.map_eq_some_iff.1 dated
    exact ⟨d, rfl, year_of_date? found⟩
  · cases read

/-- So is the book that is read from it. -/
lemma dated_of_read {archive : String} (read : Line.read archive line = .book e) : e.Dated := by
  rw [Line.read] at read
  split at read
  · cases read
  · split at read
    · next found =>
      cases read
      -- where the book lies does not change its date
      have dated := dated_of_ofLine? found
      exact dated
    · cases read

/-- Every book of a listing is dated by its year. -/
lemma dated_of_mem_books (mem : e ∈ books text member) : e.Dated := by
  obtain ⟨l, listed, own⟩ := List.mem_filterMap.1 mem
  obtain ⟨line, -, rfl⟩ := List.mem_map.1 listed
  generalize read : Line.read (String.ofList (archiveName member)) line = l at own
  cases l with
  | blank => cases own
  | malformed => cases own
  | book e' =>
    cases own
    exact dated_of_read read

/-! ## Reading what is written -/

/-- A month of two digits is read back. -/
lemma month?_padded {m : Nat} (first : 1 ≤ m) (last : m ≤ 12) (rest : List Char) :
    month? (padded 2 m ++ '-' :: rest) = some (m, rest) := by
  interval_cases m <;> rfl

/-- A day of two digits is read back. -/
lemma day?_padded : ∀ d ≤ 31, 1 ≤ d → day? (padded 2 d) = some d := by
  decide +kernel

/-- A date is written as its year and what follows the first hyphen. -/
lemma take_isoChars (d : Date) : d.isoChars.take 4 = padded 4 d.year ∧
    d.isoChars.drop 4 = '-' :: (padded 2 d.month ++ '-' :: padded 2 d.day) := by
  have length : (padded 4 d.year).length = 4 := length_padded (by decide) d.bounds.1
  rw [Date.isoChars, List.append_assoc, List.cons_append]
  exact ⟨List.take_left' length, List.drop_left' length⟩

/-- The date of a written day. -/
lemma date?_isoChars (d : Date) : date? d.isoChars = some d := by
  obtain ⟨year, behind⟩ := take_isoChars d
  obtain ⟨⟨month, month'⟩, day, day'⟩ := d.ranges
  obtain ⟨ds, read, value⟩ := (writes_padded 4 d.year).values
  have length := (forall₂_of_values read).length_eq
  rw [length_padded (by decide) d.bounds.1] at length
  have month := month?_padded month month' (padded 2 d.day)
  have day := day?_padded d.day day' day
  simp only [date?, year, read, behind, month, day, Option.bind_eq_bind, Option.bind_some]
  rw [if_pos length.symm, value, Date.make?, dif_pos d.exists_day]

end Listing

end BookCatalog
