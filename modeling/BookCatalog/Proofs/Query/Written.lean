import BookCatalog.Proofs.Query.Gaps

/-!
# Written queries

A query can be written piece by piece, and what is parsed is what was written (`parse_written`). The
central notions:

* `Piece`: a plain word, or a name that stands for a column with any text in quotes.
* `written`: pieces with a space between them.
* `leftmost_reading`: reading goes piece by piece. A space ends what comes before it, and no
  qualifier begins where there is no colon before the next space.
-/

namespace BookCatalog.Query

open Text

/-- A piece of a written query. -/
inductive Piece where
  | word (cs : List Char) (ne : cs ≠ []) (alnum : ∀ c ∈ cs, isAlnum c = true)
  | quoted (name : List Char) (column : Column) (stands : Column.ofName? name = some column)
    (text : List Char)

namespace Piece

def text : Piece → List Char
  | word cs _ _ => cs
  | quoted name _ _ text => name ++ ':' :: quote text

/-- The words that a piece asks for in any column. -/
def general : Piece → List (List Char)
  | word cs _ _ => words cs
  | quoted _ _ _ _ => []

/-- The words that a piece asks for in a column. -/
def terms (column : Column) : Piece → List (List Char)
  | word _ _ _ => []
  | quoted _ column' _ text => if column' = column then words text else []

/-- What a piece is read as. -/
def segment : Piece → Segment
  | word cs _ _ => .gap cs
  | quoted name _ _ text => .qualifier ⟨name, quote text⟩

end Piece

/-- The query that pieces are written as. -/
def written (pieces : List Piece) : List Char :=
  joinWith [' '] (pieces.map Piece.text)

variable {cs front rest text : List Char} {pieces : List Segment} {column : Column}

/-! ## Reading -/

/-- There is no colon before the next space in a word of letters and digits. -/
lemma colon_not_mem (alnum : ∀ c ∈ cs, isAlnum c = true) (apart : ∀ c ∈ rest.head?, c = ' ') :
    ':' ∉ (cs ++ rest).takeWhile (· ≠ ' ') := by
  have inside : ∀ c ∈ cs, decide (c ≠ ' ') = true := fun c mem =>
    decide_eq_true (ne_space_of_alnum (alnum c mem))
  have none : rest.takeWhile (· ≠ ' ') = [] := by
    cases rest with
    | nil => rfl
    | cons c rest => simp [apart c rfl]
  rw [List.takeWhile_append_of_pos inside, none, List.append_nil]
  intro mem
  cases alnum ':' mem

/-- No qualifier begins in a word. -/
lemma clear_word (alnum : ∀ c ∈ text, isAlnum c = true) (apart : ∀ c ∈ rest.head?, c = ' ') :
    Clear front text rest := by
  rintro before after rfl - q ⟨-, found⟩
  have colon := colon_not_mem (fun c mem => alnum c (List.mem_append_right _ mem)) apart
  rw [at?_eq_none colon] at found
  cases found

/-- No qualifier begins with a space. -/
lemma clear_space (front rest : List Char) : Clear front [' '] rest := by
  refine clear_cons.2 ⟨?_, clear_nil⟩
  rintro q ⟨-, found⟩
  rw [at?_eq_none (by simp)] at found
  cases found

/-- A piece is read as it is written. -/
@[simp] lemma source_segment (p : Piece) : p.segment.source = p.text := by
  cases p <;> rfl

/-- A piece is read as such behind a text that does not end inside a word, if a space comes next. -/
lemma leftmost_segment (p : Piece) (outside : endsInWord front = false)
    (apart : ∀ c ∈ (textOf pieces).head?, c = ' ') (behind : Leftmost (front ++ p.text) pieces) :
    Leftmost front (p.segment :: pieces) := by
  cases p with
  | word cs ne alnum => exact .gap (clear_word alnum apart) behind
  | quoted name column stands text =>
    refine .qualifier ⟨outside, ?_⟩ behind
    have read := at?_quoted stands text (textOf pieces)
    rwa [← List.cons_append, ← List.append_assoc] at read

/-- What a written query is read as: its pieces, and the spaces between them. -/
def reading : List Piece → List Segment
  | [] => []
  | p :: pieces => p.segment :: pieces.flatMap fun p => [.gap [' '], p.segment]

/-- Pieces that follow are written with a space in front of each. -/
lemma textOf_spaced (pieces : List Piece) :
    textOf (pieces.flatMap fun p => [.gap [' '], p.segment]) =
      pieces.flatMap fun p => ' ' :: p.text := by
  rw [textOf, List.flatMap_assoc]
  refine List.flatMap_congr fun p _ => ?_
  rw [List.flatMap_cons, List.flatMap_singleton, source_segment]
  rfl

/-- Pieces that follow begin with a space. -/
lemma head_spaced (pieces : List Piece) :
    ∀ c ∈ (textOf (pieces.flatMap fun p => [.gap [' '], p.segment])).head?, c = ' ' := by
  rw [textOf_spaced]
  cases pieces <;> simp

/-- The pieces are read one by one, with a space in front of each. -/
lemma leftmost_spaced (front : List Char) (pieces : List Piece) :
    Leftmost front (pieces.flatMap fun p => [.gap [' '], p.segment]) := by
  induction pieces generalizing front with
  | nil => exact .nil
  | cons p pieces ih =>
    have outside : endsInWord (front ++ [' ']) = false := by
      rw [endsInWord_concat]
      decide
    exact .gap (clear_space _ _) (leftmost_segment p outside (head_spaced pieces) (ih _))

/-- The reading of a written query is leftmost, and it reads all of the query. -/
lemma leftmost_reading (pieces : List Piece) :
    Leftmost [] (reading pieces) ∧ textOf (reading pieces) = written pieces := by
  cases pieces with
  | nil => exact ⟨.nil, rfl⟩
  | cons p pieces =>
    refine ⟨leftmost_segment p rfl (head_spaced pieces) (leftmost_spaced _ pieces), ?_⟩
    rw [reading, textOf_cons, textOf_spaced, source_segment, written, List.map_cons, joinWith,
      List.flatMap_map]
    rfl

/-- What the pieces of a written query give is what its reading gives. -/
lemma flatMap_segments {α : Type} {f : Segment → List α} (additive : Additive f)
    (pieces : List Piece) :
    (segments (written pieces)).flatMap f = (reading pieces).flatMap f := by
  obtain ⟨leftmost, text⟩ := leftmost_reading pieces
  rw [← text, leftmost.flatMap_segments additive]

/-- An empty query has no pieces. -/
lemma segments_nil : segments [] = [] := by
  rw [segments, segmentsFrom]
  rfl

/-! ## The query -/

/-- What a piece leaves in the remainder. -/
def Piece.kept : Piece → List Char
  | word cs _ _ => cs
  | quoted _ _ _ _ => []

/-- A piece that is read leaves what it leaves as written. -/
lemma kept_segment (p : Piece) : p.segment.kept = p.kept := by
  cases p with
  | word => rfl
  | quoted name column stands text =>
    rw [Piece.segment, Segment.kept, stands]
    rfl

/-- A piece that is read asks for what it asks for as written. -/
lemma terms_segment (p : Piece) : p.segment.terms column = p.terms column := by
  cases p with
  | word => rfl
  | quoted name column' stands text =>
    rw [Piece.segment, Segment.terms, stands, unquote_quote, Piece.terms]
    simp only [Option.some.injEq]

/-- The words of texts with spaces between them are those of each. -/
lemma words_joinWith (texts : List (List Char)) :
    words (joinWith [' '] texts) = texts.flatMap words := by
  cases texts with
  | nil => rfl
  | cons first rest =>
    rw [joinWith, List.flatMap_cons]
    induction rest generalizing first with
    | nil => simp
    | cons second rest ih =>
      rw [List.flatMap_cons, List.append_assoc, List.cons_append, List.nil_append,
        words_append_sep rfl, ih, List.flatMap_cons]

/-- No piece is blank. -/
lemma exists_nonblank (p : Piece) : ∃ c ∈ p.text, isBlank c = false := by
  cases p with
  | word cs ne alnum =>
    obtain ⟨c, mem⟩ := List.exists_mem_of_ne_nil cs ne
    exact ⟨c, mem, alnum_apart_blank.not_covers (alnum c mem)⟩
  | quoted name column stands text => exact ⟨':', by simp [Piece.text], by decide⟩

/-- A written query is never blank, so that its pieces count. -/
lemma parse_eq (pieces : List Piece) :
    parse (written pieces) = ofSegments (segments (written pieces)) := by
  cases pieces with
  | nil =>
    have nothing : segments (written []) = [] := segments_nil
    rw [nothing]
    rfl
  | cons p pieces =>
    obtain ⟨c, mem, worded⟩ := exists_nonblank p
    have listed : c ∈ written (p :: pieces) := by
      rw [written, List.map_cons, joinWith]
      exact List.mem_append_left _ mem
    rw [parse, if_neg]
    intro blank
    rw [List.all_eq_true.1 blank c listed] at worded
    cases worded

/-- What is left of a written query are its plain words. -/
theorem remainder_written (pieces : List Piece) :
    (parse (written pieces)).remainder = joinWith [' '] (pieces.map Piece.kept) := by
  have read : (parse (written pieces)).remainder = (reading pieces).flatMap Segment.kept := by
    rw [parse_eq]
    exact flatMap_segments additive_kept pieces
  rw [read]
  cases pieces with
  | nil => rfl
  | cons p pieces =>
    have space : Segment.kept (.gap [' ']) = [' '] := rfl
    rw [reading, List.flatMap_cons, List.flatMap_assoc, kept_segment, List.map_cons, joinWith,
      List.flatMap_map]
    simp only [List.flatMap_cons, List.flatMap_nil, List.append_nil, space, kept_segment]

/-- The words without qualifier are those that were written. -/
lemma general_written (pieces : List Piece) :
    (parse (written pieces)).general = pieces.flatMap Piece.general := by
  have kept : ∀ p : Piece, words p.kept = p.general := by
    intro p
    cases p <;> rfl
  rw [general_eq, remainder_written, words_joinWith, List.flatMap_map]
  simp only [kept]

/-- The words for a column are those that were written for it. -/
lemma terms_written (pieces : List Piece) (column : Column) :
    (parse (written pieces)).terms column = pieces.flatMap (Piece.terms column) := by
  rw [terms_parse, flatMap_segments (additive_terms column)]
  cases pieces with
  | nil => rfl
  | cons p pieces =>
    have space : Segment.terms column (.gap [' ']) = [] := rfl
    rw [reading, List.flatMap_cons, List.flatMap_assoc, terms_segment]
    simp only [List.flatMap_cons, List.flatMap_nil, List.append_nil, List.nil_append, space,
      terms_segment]

/-- What is parsed is what was written: the plain words, and the words of every text in its own
column. -/
theorem parse_written (pieces : List Piece) :
    (parse (written pieces)).general = pieces.flatMap Piece.general ∧
      ∀ column, (parse (written pieces)).terms column = pieces.flatMap (Piece.terms column) :=
  ⟨general_written pieces, terms_written pieces⟩

/-- Every spelling stands for its column. -/
lemma stands_of_mem : ∀ entry ∈ spellings, Column.ofName? entry.1 = some entry.2 := by
  decide +kernel

/-- The query of a qualifier with a quoted text asks for the words of the text in the column of the
qualifier, and for nothing else. -/
theorem parse_quoted (spelled : (name, column) ∈ spellings) (cs : List Char) :
    (parse (name ++ ':' :: quote cs)).remainder = [] ∧
      (parse (name ++ ':' :: quote cs)).general = [] ∧
      ∀ column', (parse (name ++ ':' :: quote cs)).terms column' =
        if column = column' then words cs else [] := by
  have stands : Column.ofName? name = some column := stands_of_mem _ spelled
  have alone : written [.quoted name column stands cs] = name ++ ':' :: quote cs := by
    simp [written, joinWith, Piece.text]
  have remainder := remainder_written [.quoted name column stands cs]
  have general := general_written [.quoted name column stands cs]
  have terms := terms_written [.quoted name column stands cs]
  simp only [List.flatMap_singleton] at general terms
  rw [alone] at remainder general terms
  exact ⟨remainder, general, terms⟩

end BookCatalog.Query
