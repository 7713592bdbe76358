import BookCatalog.Proofs.Listing.Dates

/-!
# Written listings

Entries can be written line by line, and what is read is what was written (`books_written`). The
central notions:

* `Writable`: an entry whose fields hold nothing that a line or a field ends with.
* `line`: an entry in fourteen fields. Each of them is read back (`ofLine?_line`).
* `Row`, `Break`, `written`: entries and blank lines, with breaks of both kinds between them.
-/

namespace BookCatalog.Listing

open Text

/-! ## Entries in writing -/

/-- A text that can stand in a field. -/
def Clean (cs : List Char) : Prop :=
  ∀ c ∈ cs, c ≠ separator ∧ c ≠ '\n'

/-- A text that can stand among the authors. -/
structure IsName (cs : List Char) : Prop where
  ne : cs ≠ []
  trim : Trim cs
  clean : Clean cs
  single : ',' ∉ cs

/-- An entry that a line can hold: its texts and names can stand in their fields, its numbers are
not too long to be read, its date is a day of its year, and its file is named by its id in an
archive of another name. -/
structure Writable (e : Entry) : Prop where
  texts : ∀ text ∈ [e.id, e.title, e.series, e.genre, e.language, e.archivePath, e.format,
    e.annotation], Clean text.toList
  authors : ∀ name ∈ e.authors, IsName name.toList
  annotation : ∀ c ∈ e.annotation.toList.getLast?, isBlank c = false
  numbers : ∀ n ∈ [e.seriesNum, e.fileSize, e.rating],
    (Nat.toDigits 10 n.natAbs).length ≤ maxDigits
  date : e.date = none ∧ e.year = 0 ∨ ∃ d : Date, e.date = some d.midnight ∧ e.year = d.year
  archive : e.archivePath ≠ "" ∧ e.archivePath ≠ e.id
  fileNum : e.fileNum = e.id

/-- An entry with everything that a line can hold: authors with blanks in their names, a series, a
date, and numbers below zero. -/
def rose : Entry where
  id := "7"
  title := "The Name of the Rose"
  authors := ["Umberto Eco", "Ann Lee"]
  series := "Abbeys: old, new"
  seriesNum := -2
  genre := "sf"
  year := 1980
  language := "en"
  fileSize := 120034
  archivePath := "fb2-000001"
  fileNum := "7"
  format := "fb2"
  date := some (Date.midnight ⟨1980, 2, 29, by decide⟩)
  rating := 5
  annotation := " Seven days; seven deaths."

/-- Such an entry can be written. -/
theorem rose_writable : Writable rose where
  texts := by simp [rose, Clean, separator]
  authors := by
    refine List.forall_mem_cons.2 ⟨?_, List.forall_mem_singleton.2 ?_⟩
    all_goals exact ⟨by simp, ⟨by simp; rfl, by simp; rfl⟩, by simp [Clean, separator], by simp⟩
  annotation := by simp [rose]; rfl
  numbers := by decide +kernel
  date := .inr ⟨_, rfl, rfl⟩
  archive := by decide
  fileNum := rfl

/-- Names with commas between them and a colon behind the last one. -/
def authorField (names : List (List Char)) : List Char :=
  joinWith [','] names ++ [':']

/-- A day as `YYYY-MM-DD`, nothing if none is known. -/
def dateField (date : Option DateTime) : List Char :=
  (date.map fun dt => dt.date.isoChars).getD []

/-- The fields between the authors and the annotation. -/
def middleFields (e : Entry) : List (List Char) :=
  [e.genre.toList, e.title.toList, e.series.toList, decimal e.seriesNum, e.id.toList,
    decimal e.fileSize, e.archivePath.toList, e.fileNum.toList, e.format.toList, dateField e.date,
    e.language.toList, decimal e.rating]

def fields (e : Entry) : List (List Char) :=
  authorField (e.authors.map String.toList) :: middleFields e ++ [e.annotation.toList]

def line (e : Entry) : List Char :=
  joinWith [separator] (fields e)

example :
    String.ofList
      (line { id := "7", title := "Rose", authors := ["Eco", "Ann Lee"], fileSize := 12 }) =
      "Eco,Ann Lee:\x04\x04Rose\x04\x040\x047\x0412\x04\x04\x04\x04\x04\x040\x04" := by
  decide +kernel

/-! ## Authors -/

variable {e : Entry} {names : List (List Char)} {cs : List Char} {n : Int}

/-- Authors are read back from their field. -/
lemma authors_authorField (names_ : ∀ name ∈ names, IsName name) :
    authors (authorField names) = names := by
  have cut : ((splitOn ',' (joinWith [','] names)).map strip).filter (!·.isEmpty) = names := by
    cases names with
    | nil => rfl
    | cons first rest =>
      have free : ∀ name ∈ first :: rest, ',' ∉ name := fun name mem => (names_ name mem).single
      rw [splitOn_joinWith (List.cons_ne_nil _ _) free]
      have bare : (first :: rest).map strip = first :: rest := by
        rw [List.map_congr_left fun name mem => strip_of_trim (names_ name mem).trim]
        exact List.map_id _
      rw [bare, List.filter_eq_self]
      intro name mem
      simpa using (names_ name mem).ne
  rw [authors, authorField, List.getLast?_concat, List.dropLast_concat]
  exact cut

/-- The field of the authors does not end a line or a field. -/
lemma clean_authorField (names_ : ∀ name ∈ names, IsName name) : Clean (authorField names) := by
  intro c mem
  rcases List.mem_append.1 mem with joined | last
  · rcases mem_joinWith joined with rfl | ⟨name, listed, own⟩
    · decide
    · exact (names_ name listed).clean c own
  · cases List.mem_singleton.1 last
    decide

/-- The field of the authors is never empty. -/
lemma authorField_ne_nil (names : List (List Char)) : authorField names ≠ [] :=
  List.append_ne_nil_of_right_ne_nil _ (List.cons_ne_nil _ _)

/-- The field of the authors does not begin with a blank. -/
lemma head_authorField (names_ : ∀ name ∈ names, IsName name) :
    ∀ c ∈ (authorField names).head?, isBlank c = false := by
  cases names with
  | nil =>
    rintro c ⟨⟩
    decide
  | cons first rest =>
    obtain ⟨ne, trim, -, -⟩ := names_ first List.mem_cons_self
    intro c mem
    apply trim.head
    rw [authorField, joinWith, List.append_assoc, List.head?_append_of_ne_nil _ ne] at mem
    exact mem

/-! ## Dates and numbers -/

/-- A digit does not end a line or a field. -/
lemma not_mem_of_isDigit {c : Char} (digit : c.isDigit = true) : c ≠ separator ∧ c ≠ '\n' := by
  constructor
  · rintro rfl
    cases digit
  · rintro rfl
    cases digit

/-- A date does not end a line or a field. -/
lemma clean_isoChars (d : Date) : Clean d.isoChars := by
  have number : ∀ width n, Clean (padded width n) := fun _ _ _ mem =>
    not_mem_of_isDigit (isDigit_of_mem_padded mem)
  have dash : ∀ cs, Clean cs → Clean ('-' :: cs) := fun cs clean =>
    List.forall_mem_cons.2 ⟨by decide, clean⟩
  have join : ∀ cs cs', Clean cs → Clean cs' → Clean (cs ++ cs') := fun _ _ clean clean' =>
    List.forall_mem_append.2 ⟨clean, clean'⟩
  rw [Date.isoChars, List.append_assoc]
  apply join _ _ (number _ _)
  apply dash
  apply join _ _ (number _ _)
  apply dash
  exact number _ _

/-- A number does not end a line or a field. -/
lemma clean_decimal (n : Int) : Clean (decimal n) := by
  intro c mem
  rcases mem_decimal mem with rfl | digit
  · decide
  · exact not_mem_of_isDigit digit

namespace Writable

/-- The date and the year are read back from the date field. -/
lemma date_read (writable : Writable e) :
    (date? (dateField e.date)).map Date.midnight = e.date ∧
    Listing.year (dateField e.date) = e.year := by
  rcases writable.date with ⟨none, year⟩ | ⟨d, some, same⟩
  · rw [none, year]
    exact ⟨rfl, rfl⟩
  · rw [some, same]
    show (date? d.isoChars).map Date.midnight = _ ∧ Listing.year d.isoChars = _
    rw [date?_isoChars, year_of_date? (date?_isoChars d)]
    exact ⟨rfl, rfl⟩

/-- The date field does not end a line or a field. -/
lemma clean_dateField (writable : Writable e) : Clean (dateField e.date) := by
  rcases writable.date with ⟨none, -⟩ | ⟨d, some, -⟩
  · rw [none]
    exact nofun
  · rw [some]
    exact clean_isoChars d

/-! ## Lines -/

/-- The authors of an entry can stand among authors. -/
lemma isNames (writable : Writable e) : ∀ name ∈ e.authors.map String.toList, IsName name := by
  intro name mem
  obtain ⟨author, listed, rfl⟩ := List.mem_map.1 mem
  exact writable.authors author listed

/-- No field of an entry ends a line or a field. -/
lemma clean_fields (writable : Writable e) : ∀ field ∈ fields e, Clean field := by
  have texts := writable.texts
  simp only [List.forall_mem_cons] at texts
  obtain ⟨id, title, series, genre, language, archive, format, note, -⟩ := texts
  have number : Clean e.fileNum.toList := writable.fileNum ▸ id
  rw [fields, List.cons_append, List.forall_mem_cons, List.forall_mem_append]
  refine ⟨clean_authorField writable.isNames, ?_, List.forall_mem_singleton.2 note⟩
  simp only [middleFields, List.forall_mem_cons]
  exact ⟨genre, title, series, clean_decimal _, id, clean_decimal _, archive, number, format,
    writable.clean_dateField, language, clean_decimal _, nofun⟩

/-- The line of an entry has no line break. -/
lemma clean_line (writable : Writable e) : '\n' ∉ line e := by
  intro mem
  rcases mem_joinWith mem with same | ⟨field, listed, own⟩
  · revert same
    decide
  · exact (writable.clean_fields field listed _ own).2 rfl

/-- A line begins with the authors, of which at least the colon is there, and ends with the
annotation or with the separator in front of it. -/
lemma trim_line (writable : Writable e) : Trim (line e) := by
  have parts : line e = authorField (e.authors.map String.toList) ++
      ((middleFields e).flatMap ([separator] ++ ·) ++ separator :: e.annotation.toList) := by
    simp [line, fields, joinWith]
  have head := head_authorField writable.isNames
  constructor
  · rw [parts, List.head?_append_of_ne_nil _ (authorField_ne_nil _)]
    exact head
  · rw [parts, ← List.append_assoc, List.getLast?_append_of_ne_nil _ (List.cons_ne_nil _ _)]
    intro c last
    rw [List.getLast?_cons] at last
    cases end_ : e.annotation.toList.getLast? with
    | none =>
      rw [end_] at last
      cases last
      decide
    | some c' =>
      rw [end_] at last
      cases last
      exact writable.annotation c' end_

/-- A written entry is read as it was, field by field. -/
theorem ofLine?_line (writable : Writable e) : Entry.ofLine? (line e) = some e := by
  have cut : splitOn separator (line e) = fields e :=
    splitOn_joinWith (List.cons_ne_nil _ _) fun field mem own =>
      (writable.clean_fields field mem _ own).1 rfl
  have authors : (Listing.authors (authorField (e.authors.map String.toList))).map String.ofList =
      e.authors := by
    rw [authors_authorField writable.isNames, List.map_map]
    simp [Function.comp_def]
  obtain ⟨date, year⟩ := writable.date_read
  have number : ∀ n ∈ [e.seriesNum, e.fileSize, e.rating], readIntOrZero (decimal n) = n :=
    fun n mem => readIntOrZero_decimal (writable.numbers n mem)
  simp only [List.forall_mem_cons] at number
  obtain ⟨seriesNum, fileSize, rating, -⟩ := number
  rw [Entry.ofLine?, cut]
  simp only [fields, middleFields, List.cons_append, List.nil_append, List.headD_cons,
    authors, date, year, seriesNum, fileSize, rating, String.ofList_toList]

end Writable

/-! ## Listings -/

/-- A line of a written listing. -/
inductive Row where
  | blank (cs : List Char) (blanks : ∀ c ∈ cs, isBlank c = true) (free : '\n' ∉ cs)
  | entry (e : Entry) (writable : Writable e)

inductive Break where
  | lf
  | crlf

def Break.text : Break → List Char
  | .lf => ['\n']
  | .crlf => ['\r', '\n']

namespace Row

def text : Row → List Char
  | blank cs _ _ => cs
  | entry e _ => Listing.line e

def entry? : Row → Option Entry
  | blank _ _ _ => none
  | entry e _ => some e

/-- What a line is read as. -/
def line : Row → Line
  | blank _ _ _ => .blank
  | entry e _ => .book e

/-- A line is read as it was written, whatever blanks stand behind it. -/
lemma read_text (row : Row) (archive : String) {behind : List Char}
    (blanks : ∀ c ∈ behind, isBlank c = true) :
    Line.read archive (row.text ++ behind) = row.line := by
  cases row with
  | blank cs own _ =>
    have nothing : strip (cs ++ behind) = [] :=
      strip_of_blank (List.forall_mem_append.2 ⟨own, blanks⟩)
    rw [text, Line.read, nothing]
    rfl
  | entry e writable =>
    have bare : strip (Listing.line e ++ behind) = Listing.line e :=
      (strip_append blanks).trans (strip_of_trim writable.trim_line)
    have some : Listing.line e ≠ [] := by
      intro none
      have read := writable.ofLine?_line
      rw [none] at read
      cases read
    have kept : located archive e = e := by
      obtain ⟨ne, apart⟩ := writable.archive
      have named : e.archivePath ≠ "" ∧ e.archivePath ≠ e.id := ⟨ne, apart⟩
      rw [located, if_neg (not_or.2 named), Entry.mk.injEq]
      simp only [writable.fileNum, and_self]
    rw [text, Line.read, bare, if_neg (by simpa using some), writable.ofLine?_line]
    show Line.book (located archive e) = Line.book e
    rw [kept]

/-- What is written in a row has no line break. -/
lemma free (row : Row) : '\n' ∉ row.text := by
  cases row with
  | blank _ _ free => exact free
  | entry _ writable => exact writable.clean_line

end Row

/-- Lines with breaks between them. -/
def written (first : Row) : List (Break × Row) → List Char
  | [] => first.text
  | (end_, row) :: rest => first.text ++ end_.text ++ written row rest

/-- The lines of a written listing are read one by one, whatever breaks there are between them. -/
lemma lines_written (first : Row) (rest : List (Break × Row)) (member : List Char) :
    lines (written first rest) member = first.line :: rest.map fun (_, row) => row.line := by
  rw [lines]
  generalize String.ofList (archiveName member) = archive
  dsimp only
  induction rest generalizing first with
  | nil =>
    have own : splitOn '\n' (written first []) = [first.text] := splitOn_of_free first.free
    have read : Line.read archive (first.text ++ []) = first.line := first.read_text archive nofun
    rw [List.append_nil] at read
    rw [own, List.map_singleton, read]
    rfl
  | cons next rest ih =>
    obtain ⟨end_, row⟩ := next
    -- a carriage return is one more blank at the end of the line
    obtain ⟨behind, blanks, free, text⟩ : ∃ behind, (∀ c ∈ behind, isBlank c = true) ∧
        '\n' ∉ behind ∧ end_.text = behind ++ ['\n'] := by
      cases end_ with
      | lf => exact ⟨[], nofun, List.not_mem_nil, rfl⟩
      | crlf => exact ⟨['\r'], List.forall_mem_singleton.2 rfl, by decide, rfl⟩
    have cut : splitOn '\n' (written first ((end_, row) :: rest)) =
        (first.text ++ behind) :: splitOn '\n' (written row rest) := by
      have alone : '\n' ∉ first.text ++ behind := fun mem =>
        (List.mem_append.1 mem).elim first.free free
      rw [written, text, ← List.append_assoc, List.append_assoc, List.singleton_append,
        splitOn_append_sep, splitOn_of_free alone]
      rfl
    rw [cut, List.map_cons, first.read_text archive blanks, ih]
    rfl

/-- What is read from a written listing are its entries, in order, and there is nothing to
report. -/
theorem books_written (first : Row) (rest : List (Break × Row)) (member : List Char) :
    books (written first rest) member = (first :: rest.map Prod.snd).filterMap Row.entry? ∧
      notices (written first rest) member = [] := by
  have same : lines (written first rest) member = (first :: rest.map Prod.snd).map Row.line := by
    rw [lines_written, List.map_cons, List.map_map]
    rfl
  constructor
  · rw [books, same, List.filterMap_map]
    congr
    funext row
    cases row <;> rfl
  · rw [notices, same, List.filterMap_eq_nil_iff]
    rintro ⟨line, number⟩ mem
    obtain ⟨row, -, rfl⟩ := List.mem_map.1 (List.fst_mem_of_mem_zipIdx mem)
    cases row <;> rfl

end BookCatalog.Listing
