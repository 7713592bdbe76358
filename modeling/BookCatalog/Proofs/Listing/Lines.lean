import BookCatalog.Listing.Basic
import BookCatalog.Proofs.Text.Fields

/-!
# Listings, line by line

What is read of a listing is what is read of its lines, one by one (`read_by_lines`). The central
notions:

* `IsBook`, `IsMalformed`: the lines that are not blank, told apart by the number of their fields.
  Every line is read as what it is (`Line.Reads`).
* `Tells`: what a line tells about the book that is read from it.
* `crlf`: a text with the other kind of line breaks. Its lines have one more blank at their ends.
-/

namespace BookCatalog.Listing

open Text

/-- A line with nothing but blanks. -/
def IsBlankLine (line : List Char) : Prop :=
  ∀ c ∈ line, isBlank c = true

/-- A line with a book: it has at least thirteen fields. -/
def IsBook (line : List Char) : Prop :=
  ¬ IsBlankLine line ∧ 13 ≤ (splitOn separator line).length

/-- A line with something on it that is no book. -/
def IsMalformed (line : List Char) : Prop :=
  ¬ IsBlankLine line ∧ (splitOn separator line).length < 13

instance : DecidablePred IsBlankLine := fun line =>
  inferInstanceAs (Decidable (∀ c ∈ line, isBlank c = true))

instance : DecidablePred IsBook := fun _ => inferInstanceAs (Decidable (_ ∧ _))

instance : DecidablePred IsMalformed := fun _ => inferInstanceAs (Decidable (_ ∧ _))

/-- What a line tells about the place of its book: the file is named by the id in the sixth field.
The book lies in the archive that its eighth field names, and in the given one if this field is
empty or repeats the id. -/
structure Tells (archive : String) (line : List Char) (e : Entry) : Prop where
  id : (splitOn separator line)[5]? = some e.id.toList
  fileNum : e.fileNum = e.id
  archivePath : ∃ named : String, (splitOn separator line)[7]? = some named.toList ∧
    (e.archivePath = archive ↔ named = "" ∨ named = e.id ∨ named = archive) ∧
    (e.archivePath ≠ archive → e.archivePath = named)

/-- What a line is read as. -/
inductive Line.Reads (archive : String) (line : List Char) : Line → Prop where
  | blank :
    IsBlankLine line →
    Reads archive line .blank
  | malformed :
    IsMalformed line →
    Reads archive line .malformed
  | book {e} :
    IsBook line →
    Tells archive line e →
    Reads archive line (.book e)

/-- A notice about a line that stands so many lines further down. -/
def later (lines : Nat) : Notice → Notice
  | .malformedLine number member => .malformedLine (number + lines) member
  | notice => notice

/-- A text with carriage returns in front of its line feeds. -/
def crlf (text : List Char) : List Char :=
  text.flatMap fun c => if c = '\n' then ['\r', '\n'] else [c]

variable {archive : String} {e : Entry} {line member : List Char}

/-! ## Lines of a listing -/

/-- A line is blank if nothing is left of it without the blanks around it. -/
lemma isBlankLine_iff : IsBlankLine line ↔ strip line = [] := by
  refine ⟨strip_of_blank, fun nothing => ?_⟩
  obtain ⟨front, back, parts, before, behind⟩ := exists_around_strip line
  rw [nothing, List.append_nil] at parts
  rw [parts]
  exact List.forall_mem_append.2 ⟨before, behind⟩

/-- Blanks around a line do not change how many fields it has, nor the fields between the first and
the last one. -/
lemma fields_strip (line : List Char) :
    (splitOn separator (strip line)).length = (splitOn separator line).length ∧
      ∀ place, 0 < place → place + 1 < (splitOn separator line).length →
        (splitOn separator (strip line))[place]? = (splitOn separator line)[place]? := by
  obtain ⟨front, back, parts, before, behind⟩ := exists_around_strip line
  have free : ∀ cs : List Char, (∀ c ∈ cs, isBlank c = true) → separator ∉ cs :=
    fun cs blank mem => by
    cases blank separator mem
  have length := length_splitOn_around (strip line) (free front before) (free back behind)
  rw [← parts] at length
  refine ⟨length.symm, fun place inner within => ?_⟩
  rw [length] at within
  have same := getElem?_splitOn_around (free front before) (free back behind) inner within
  rw [← parts] at same
  exact same.symm

/-- Thirteen fields are a book, with the id in the sixth field and the archive in the eighth one. -/
lemma ofLine?_cases (cs : List Char) :
    (splitOn separator cs).length < 13 ∧ Entry.ofLine? cs = none ∨
      13 ≤ (splitOn separator cs).length ∧ ∃ e, Entry.ofLine? cs = some e ∧
        (splitOn separator cs)[5]? = some e.id.toList ∧
        (splitOn separator cs)[7]? = some e.archivePath.toList := by
  rw [Entry.ofLine?]
  split
  · next cut =>
    rw [cut]
    exact .inr ⟨by simp, _, rfl, by simp, by simp⟩
  · next few =>
    refine .inl ⟨?_, rfl⟩
    by_contra many
    match cut : splitOn separator cs with
    | authors :: genre :: title :: series :: number :: id :: size :: archive :: fileNum ::
        format :: date :: language :: rating :: more => exact few _ _ _ _ _ _ _ _ _ _ _ _ _ _ cut
    | [] | [_] | [_, _] | [_, _, _] | [_, _, _, _] | [_, _, _, _, _] | [_, _, _, _, _, _]
    | [_, _, _, _, _, _, _] | [_, _, _, _, _, _, _, _] | [_, _, _, _, _, _, _, _, _]
    | [_, _, _, _, _, _, _, _, _, _] | [_, _, _, _, _, _, _, _, _, _, _]
    | [_, _, _, _, _, _, _, _, _, _, _, _] => simp [cut] at many

/-- The archive of a book is the given one if the line names none, repeats the id or names this
one. -/
lemma archivePath_located (archive : String) (e : Entry) :
    ((located archive e).archivePath = archive ↔
      e.archivePath = "" ∨ e.archivePath = e.id ∨ e.archivePath = archive) ∧
    ((located archive e).archivePath ≠ archive →
      (located archive e).archivePath = e.archivePath) := by
  rw [located]
  dsimp only
  split
  · next unnamed =>
    exact ⟨iff_of_true rfl (or_assoc.1 (.inl unnamed)), fun other => absurd rfl other⟩
  · next named =>
    refine ⟨?_, fun _ => rfl⟩
    rw [← or_assoc, or_iff_right named]

/-- Every line is read as what it is. -/
lemma reads_read (archive : String) (line : List Char) :
    (Line.read archive line).Reads archive line := by
  rw [Line.read]
  split
  · next nothing => exact .blank (isBlankLine_iff.2 (List.isEmpty_iff.1 nothing))
  · next some =>
    have written : ¬ IsBlankLine line := fun blank =>
      some (List.isEmpty_iff.2 (isBlankLine_iff.1 blank))
    obtain ⟨length, same⟩ := fields_strip line
    rcases ofLine?_cases (strip line) with ⟨few, none⟩ | ⟨many, e, read, id, named⟩
    · rw [none]
      exact .malformed ⟨written, length ▸ few⟩
    · rw [read]
      rw [length] at many
      rw [same 5 (by decide) (by omega)] at id
      rw [same 7 (by decide) (by omega)] at named
      obtain ⟨own, other⟩ := archivePath_located archive e
      exact .book ⟨written, many⟩
        { id := id, fileNum := rfl, archivePath := ⟨e.archivePath, named, own, other⟩ }

/-- The books on some lines, one for each line that has one. -/
lemma books_of_lines (archive : String) (ls : List (List Char)) :
    List.Forall₂ (fun line e => Line.read archive line = .book e ∧ Tells archive line e)
      (ls.filter IsBook) ((ls.map (Line.read archive)).filterMap Line.entry?) := by
  induction ls with
  | nil => exact .nil
  | cons line ls ih =>
    have reads := reads_read archive line
    rw [List.map_cons]
    generalize read : Line.read archive line = l at reads
    cases reads with
    | blank blank =>
      have none : ¬ IsBook line := fun book => book.1 blank
      rwa [List.filter_cons_of_neg (by simpa using none), List.filterMap_cons_none rfl]
    | malformed malformed =>
      have none : ¬ IsBook line := fun book => absurd malformed.2 (not_lt.2 book.2)
      rwa [List.filter_cons_of_neg (by simpa using none), List.filterMap_cons_none rfl]
    | book book tells =>
      rw [List.filter_cons_of_pos (by simpa using book)]
      exact .cons ⟨read, tells⟩ ih

/-- A text of one line. -/
lemma books_of_line (alone : '\n' ∉ line)
    (read : Line.read (String.ofList (archiveName member)) line = .book e) :
    books line member = [e] := by
  rw [books, lines, splitOn_of_free alone, List.map_singleton, read]
  rfl

/-- The notices about some lines, one for each line with something on it that is no book. -/
lemma notices_of_lines (archive member : String) (ls : List (List Char)) (start : Nat) :
    ((ls.map (Line.read archive)).zipIdx start).filterMap (Line.notice? member) =
      ((ls.zipIdx start).filter fun (line, _) => IsMalformed line).map
        fun (_, number) => .malformedLine number member := by
  induction ls generalizing start with
  | nil => rfl
  | cons line ls ih =>
    have reads := reads_read archive line
    rw [List.map_cons, List.zipIdx_cons, List.zipIdx_cons]
    generalize Line.read archive line = l at reads
    cases reads with
    | blank blank =>
      have none : ¬ IsMalformed line := fun malformed => malformed.1 blank
      rw [List.filter_cons_of_neg (by simpa using none), List.filterMap_cons_none rfl, ih]
    | malformed malformed =>
      rw [List.filter_cons_of_pos (by simpa using malformed), List.map_cons, ← ih]
      rfl
    | book book =>
      have none : ¬ IsMalformed line := fun malformed => absurd malformed.2 (not_lt.2 book.2)
      rw [List.filter_cons_of_neg (by simpa using none), List.filterMap_cons_none rfl, ih]

/-! ## The archive of a member -/

/-- A file name without dots has no ending. -/
lemma withoutExtension_of_free {name : List Char} (bare : '.' ∉ name) :
    withoutExtension name = name := by
  have all : name.reverse.takeWhile (· ≠ '.') = name.reverse := by
    refine List.takeWhile_eq_self_iff.2 fun c mem => decide_eq_true ?_
    rintro rfl
    exact bare (List.mem_reverse.1 mem)
  rw [withoutExtension, all]
  simp

/-- The ending of a file name is what comes behind its last dot, and it goes with the dot, unless
nothing is left or nothing goes with the dot. -/
lemma withoutExtension_append (stem : List Char) {ending : List Char} (bare : '.' ∉ ending) :
    withoutExtension (stem ++ '.' :: ending) =
      if stem = [] ∨ ending = [] then stem ++ '.' :: ending else stem := by
  have reversed : (stem ++ '.' :: ending).reverse = ending.reverse ++ '.' :: stem.reverse := by simp
  have back : (ending.reverse ++ '.' :: stem.reverse).takeWhile (· ≠ '.') = ending.reverse := by
    rw [List.takeWhile_append_of_pos, List.takeWhile_cons_of_neg (by decide), List.append_nil]
    refine fun c mem => decide_eq_true ?_
    rintro rfl
    exact bare (List.mem_reverse.1 mem)
  have front : (ending.reverse ++ '.' :: stem.reverse).drop (ending.reverse.length + 1) =
      stem.reverse := by
    rw [← List.drop_drop, List.drop_left, List.drop_one, List.tail_cons]
  rw [withoutExtension, reversed, back, front]
  simp [or_comm]

/-- Empty components and dots are left out of a path. -/
lemma filter_component (name : List Char) :
    [name].filter (fun part => !part.isEmpty && part != ['.']) =
      if name = [] ∨ name = ['.'] then [] else [name] := by
  by_cases none : name = [] ∨ name = ['.']
  · rcases none with rfl | rfl <;> rfl
  · rw [if_neg none, List.filter_eq_self]
    simpa [not_or] using none

/-- A single name is the last component of itself, unless it is left out. -/
lemma lastComponent_of_free {name : List Char} (single : '/' ∉ name) :
    lastComponent name = if name = [] ∨ name = ['.'] then [] else name := by
  rw [lastComponent, splitOn_of_free single, filter_component]
  split <;> rfl

/-- What comes behind the last slash of a path is its last component, unless it is left out. -/
lemma lastComponent_append (path : List Char) {name : List Char} (single : '/' ∉ name) :
    lastComponent (path ++ '/' :: name) =
      if name = [] ∨ name = ['.'] then lastComponent path else name := by
  rw [lastComponent, splitOn_append_sep, splitOn_of_free single, List.filter_append,
    filter_component]
  split
  · rw [List.append_nil]
    rfl
  · rw [List.getLast?_concat]
    rfl

/-- A member is named for the archive that its file is called after, in whatever folder the file
lies. -/
theorem archiveName_file {stem ending : List Char} (named : stem ≠ []) (ended : ending ≠ [])
    (single : '/' ∉ stem ++ '.' :: ending) (bare : '.' ∉ ending) :
    archiveName (stem ++ '.' :: ending) = stem ∧
      ∀ folder, archiveName (folder ++ '/' :: (stem ++ '.' :: ending)) = stem := by
  have file : ¬ (stem ++ '.' :: ending = [] ∨ stem ++ '.' :: ending = ['.']) := by
    rintro (empty | dot)
    · simp at empty
    · cases stem with
      | nil => exact named rfl
      | cons c stem => simp at dot
  have cut : withoutExtension (stem ++ '.' :: ending) = stem := by
    rw [withoutExtension_append stem bare, if_neg (not_or.2 ⟨named, ended⟩)]
  constructor
  · rw [archiveName, lastComponent_of_free single, if_neg file, cut]
  · intro folder
    rw [archiveName, lastComponent_append folder single, if_neg file, cut]

example : archiveName "lib/fb2-000001.zip.inp".toList = "fb2-000001.zip".toList := by decide +kernel

/-! ## Texts joined -/

/-- A line break divides the lines. -/
lemma lines_append (first second member : List Char) :
    lines (first ++ '\n' :: second) member = lines first member ++ lines second member := by
  rw [lines, splitOn_append_sep, List.map_append, lines, lines]

/-- The books of two texts with a line break between them are those of both. -/
lemma books_append (first second member : List Char) :
    books (first ++ '\n' :: second) member = books first member ++ books second member := by
  rw [books, lines_append, List.filterMap_append, books, books]

/-- A text has one line more than line breaks. -/
lemma length_lines (text member : List Char) :
    (lines text member).length = text.count '\n' + 1 := by
  rw [lines, List.length_map, length_splitOn]

/-- Lines further down are noticed alike, with their own numbers. -/
lemma notice?_later (member : String) (line : Line) (number further : Nat) :
    Line.notice? member (line, number + further) =
      (Line.notice? member (line, number)).map (later further) := by
  cases line <;> rfl

/-- The notices about two texts with a line break between them are those about both, the lines of
the second counted on. -/
lemma notices_append (first second member : List Char) :
    notices (first ++ '\n' :: second) member =
      notices first member ++ (notices second member).map (later (first.count '\n' + 1)) := by
  have further : (lines second member).zipIdx (1 + (lines first member).length) =
      ((lines second member).zipIdx 1).map fun (line, number) =>
        (line, number + (first.count '\n' + 1)) := by
    rw [length_lines, Nat.add_comm, List.zipIdx_eq_map_add]
    conv => rhs; rw [List.zipIdx_eq_map_add, List.map_map]
    refine List.map_congr_left ?_
    rintro ⟨line, number⟩ -
    simp only [Function.comp_apply, Prod.mk.injEq, true_and]
    omega
  rw [notices, lines_append, List.zipIdx_append, List.filterMap_append, further,
    List.filterMap_map, notices, notices, List.map_filterMap]
  congr 1
  refine List.filterMap_congr ?_
  rintro ⟨line, number⟩ -
  exact notice?_later _ line number _

/-! ## Line breaks -/

/-- The line breaks of a text are replaced character by character. -/
lemma crlf_cons (c : Char) (text : List Char) :
    crlf (c :: text) = (if c = '\n' then ['\r', '\n'] else [c]) ++ crlf text :=
  rfl

/-- With other line breaks the lines are the same, but for a blank at their ends. -/
lemma splitOn_crlf (text : List Char) :
    List.Forall₂
      (fun line line' => ∃ behind, (∀ c ∈ behind, isBlank c = true) ∧ line' = line ++ behind)
      (splitOn '\n' text) (splitOn '\n' (crlf text)) := by
  induction text with
  | nil => exact .cons ⟨[], nofun, rfl⟩ .nil
  | cons c text ih =>
    rw [crlf_cons]
    by_cases feed : c = '\n'
    · have cut := splitOn_append_sep '\n' [] text
      have cut' := splitOn_append_sep '\n' ['\r'] (crlf text)
      rw [List.nil_append] at cut
      rw [feed, cut, if_pos rfl]
      show List.Forall₂ _ _ (splitOn '\n' (['\r'] ++ '\n' :: crlf text))
      rw [cut']
      exact .cons ⟨['\r'], List.forall_mem_singleton.2 rfl, rfl⟩ ih
    · have some := splitOn_ne_nil '\n' text
      rw [if_neg feed, List.singleton_append, splitOn_cons, splitOn_cons]
      generalize splitOn '\n' text = ls, splitOn '\n' (crlf text) = ls' at ih some ⊢
      cases ih with
      | nil => exact absurd rfl some
      | cons own rest =>
        obtain ⟨behind, blank, rfl⟩ := own
        rw [prependField, prependField, if_neg feed, if_neg feed]
        exact .cons ⟨behind, blank, rfl⟩ rest

/-- The kind of the line breaks does not matter. -/
lemma lines_crlf (text member : List Char) : lines (crlf text) member = lines text member := by
  have same := splitOn_crlf text
  rw [lines, lines]
  generalize splitOn '\n' text = ls, splitOn '\n' (crlf text) = ls' at same
  induction same with
  | nil => rfl
  | cons own _ ih =>
    obtain ⟨behind, blank, rfl⟩ := own
    rw [List.map_cons, List.map_cons, Line.read, strip_append blank, ih]
    rfl

/-- A listing is read line by line. Texts that are joined by a line feed are read one after the
other, and the lines of the second one are counted on from those of the first one. Carriage returns
in front of the line feeds do not matter. Each line with at least thirteen fields gives one book,
the one that is read from this line alone, and each other line that is not blank gives one notice
with its number. -/
theorem read_by_lines (member : List Char) :
    (∀ first second,
      books (first ++ '\n' :: second) member = books first member ++ books second member ∧
        notices (first ++ '\n' :: second) member =
          notices first member ++ (notices second member).map (later (first.count '\n' + 1))) ∧
    (∀ text, books (crlf text) member = books text member ∧
      notices (crlf text) member = notices text member) ∧
    ∀ text,
      List.Forall₂
        (fun line e => books line member = [e] ∧ Tells (String.ofList (archiveName member)) line e)
        ((splitOn '\n' text).filter IsBook) (books text member) ∧
      notices text member =
        (((splitOn '\n' text).zipIdx 1).filter fun (line, _) => IsMalformed line).map
          fun (_, number) => .malformedLine number (String.ofList member) := by
  refine ⟨fun first second =>
    ⟨books_append first second member, notices_append first second member⟩, fun text =>
      ?_, fun text => ⟨?_, notices_of_lines _ _ _ _⟩⟩
  · rw [books, notices, lines_crlf]
    exact ⟨rfl, rfl⟩
  · have free : ∀ line ∈ (splitOn '\n' text).filter IsBook, '\n' ∉ line := fun line mem =>
      not_mem_of_mem_splitOn (List.mem_of_mem_filter mem)
    have read := books_of_lines (String.ofList (archiveName member)) (splitOn '\n' text)
    refine ((List.forall₂_and_left _ _).2 ⟨free, read⟩).imp ?_
    rintro line e ⟨alone, read, tells⟩
    exact ⟨books_of_line alone read, tells⟩

end BookCatalog.Listing
