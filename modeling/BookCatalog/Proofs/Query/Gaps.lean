import BookCatalog.Proofs.Query.Fallback
import BookCatalog.Proofs.Query.Words

/-!
# Gaps between qualifiers

Qualifiers are cut out of a query, and the gaps between them are joined with nothing in between. The
central notions:

* `Segment.isCut`: a qualifier whose name stands for a column. Any other qualifier is part of the
  gap around it.
* `gaps`, `cuts`: the texts between the qualifiers that are cut out, and these qualifiers.
* `Leftmost.words_kept`, `Leftmost.words_textOf`: no word goes over an end of a cut, neither in what
  is left of the query nor in the query itself.
-/

namespace BookCatalog.Query

open Text

/-- A qualifier whose name stands for a column. -/
def Segment.isCut : Segment → Bool
  | .gap _ => false
  | .qualifier q => (Column.ofName? q.name).isSome

/-- The texts between the qualifiers that are cut out, behind an open gap. -/
def gapsFrom (gap : List Char) : List Segment → List (List Char)
  | [] => [gap]
  | piece :: pieces =>
    if piece.isCut then gap :: gapsFrom [] pieces else gapsFrom (gap ++ piece.source) pieces

/-- The texts in front of, between and behind the qualifiers that are cut out. -/
def gaps (pieces : List Segment) : List (List Char) :=
  gapsFrom [] pieces

/-- The qualifiers that are cut out, as they are written. -/
def cuts (pieces : List Segment) : List (List Char) :=
  (pieces.filter Segment.isCut).map Segment.source

variable {cs front before after gap : List Char} {c : Char} {piece : Segment}
  {pieces : List Segment}

/-! ## Cuts -/

/-- A cut leaves nothing in the remainder. -/
lemma kept_of_isCut (cut : piece.isCut = true) : piece.kept = [] := by
  cases piece with
  | gap => cases cut
  | qualifier q => exact if_pos cut

/-- What is not cut out is left as it is written. -/
lemma kept_of_not_isCut (uncut : ¬ piece.isCut = true) : piece.kept = piece.source := by
  cases piece with
  | gap => rfl
  | qualifier q => exact if_neg uncut

/-- A cut ends a gap. -/
lemma gapsFrom_of_isCut (cut : piece.isCut = true) (gap : List Char) (pieces : List Segment) :
    gapsFrom gap (piece :: pieces) = gap :: gapsFrom [] pieces := by
  rw [gapsFrom, if_pos cut]

/-- What is not cut out continues a gap. -/
lemma gapsFrom_of_not_isCut (uncut : ¬ piece.isCut = true) (gap : List Char)
    (pieces : List Segment) :
    gapsFrom gap (piece :: pieces) = gapsFrom (gap ++ piece.source) pieces := by
  rw [gapsFrom, if_neg uncut]

/-- A cut is among the cuts. -/
lemma cuts_of_isCut (cut : piece.isCut = true) (pieces : List Segment) :
    cuts (piece :: pieces) = piece.source :: cuts pieces := by
  rw [cuts, List.filter_cons_of_pos cut, List.map_cons, cuts]

/-- What is not cut out is none of them. -/
lemma cuts_of_not_isCut (uncut : ¬ piece.isCut = true) (pieces : List Segment) :
    cuts (piece :: pieces) = cuts pieces := by
  rw [cuts, List.filter_cons_of_neg uncut, cuts]

/-- There is one gap more than there are cuts. -/
lemma length_gapsFrom (gap : List Char) (pieces : List Segment) :
    (gapsFrom gap pieces).length = (cuts pieces).length + 1 := by
  induction pieces generalizing gap with
  | nil => rfl
  | cons piece pieces ih =>
    by_cases cut : piece.isCut
    · rw [gapsFrom_of_isCut cut, cuts_of_isCut cut, List.length_cons, List.length_cons, ih]
    · rw [gapsFrom_of_not_isCut cut, cuts_of_not_isCut cut, ih]

/-- The gaps and the cuts in turn are the text. -/
lemma flatten_gapsFrom_cuts (gap : List Char) (pieces : List Segment) :
    (List.zipWith (· ++ ·) (gapsFrom gap pieces) (cuts pieces ++ [[]])).flatten =
    gap ++ textOf pieces := by
  induction pieces generalizing gap with
  | nil => simp [gapsFrom, cuts]
  | cons piece pieces ih =>
    by_cases cut : piece.isCut
    · rw [gapsFrom_of_isCut cut, cuts_of_isCut cut, List.cons_append, List.zipWith_cons_cons,
        List.flatten_cons, ih, List.nil_append, textOf_cons, List.append_assoc]
    · rw [gapsFrom_of_not_isCut cut, cuts_of_not_isCut cut, ih, textOf_cons, List.append_assoc]

/-- What is left are the gaps. -/
lemma flatten_gapsFrom (gap : List Char) (pieces : List Segment) :
    (gapsFrom gap pieces).flatten = gap ++ pieces.flatMap Segment.kept := by
  induction pieces generalizing gap with
  | nil => simp [gapsFrom]
  | cons piece pieces ih =>
    by_cases cut : piece.isCut
    · rw [gapsFrom_of_isCut cut, List.flatten_cons, ih, List.nil_append, List.flatMap_cons,
        kept_of_isCut cut, List.nil_append]
    · rw [gapsFrom_of_not_isCut cut, ih, List.flatMap_cons, kept_of_not_isCut cut,
        List.append_assoc]

/-! ## Words at the ends of a cut -/

/-- No word goes on behind a text that does not end inside a word. -/
lemma words_append_of_last (outside : endsInWord before = false) (after : List Char) :
    words (before ++ after) = words before ++ words after := by
  have last : ∀ c ∈ before.getLast?, isAlnum c = false := by
    intro c last
    rw [endsInWord, Option.mem_def.1 last] at outside
    exact (Bool.or_eq_false_iff.1 outside).1
  rw [words, runs_append_of_last last, List.map_append, List.filter_append, words, words]

/-- No word goes over a place behind which no letter or digit stands. -/
lemma words_append_of_head (outside : ∀ c ∈ after.head?, isAlnum c = false) (before : List Char) :
    words (before ++ after) = words before ++ words after := by
  rw [words, runs_append_of_head outside, List.map_append, List.filter_append, words, words]

/-- A blank is no letter or digit. -/
lemma not_alnum_of_blank (blank : isBlank c = true) : isAlnum c = false := by
  by_contra alnum
  have apart := alnum_apart_blank.not_covers (Bool.eq_true_of_not_eq_false alnum)
  rw [isBlank, apart] at blank
  cases blank

/-- Behind the first piece the others are leftmost. -/
lemma Leftmost.tail (leftmost : Leftmost front (piece :: pieces)) :
    Leftmost (front ++ piece.source) pieces := by
  cases leftmost with
  | gap _ tail => exact tail
  | qualifier _ tail => exact tail

/-- In front of a cut no word is open. -/
lemma Leftmost.front_of_isCut (leftmost : Leftmost front (piece :: pieces))
    (cut : piece.isCut = true) :
    endsInWord front = false := by
  cases leftmost with
  | gap => cases cut
  | qualifier stands _ => exact stands.1

/-- Behind a cut no word goes on. -/
lemma Leftmost.words_of_isCut (leftmost : Leftmost front (piece :: pieces))
    (cut : piece.isCut = true) :
    words (piece.source ++ textOf pieces) = words piece.source ++ words (textOf pieces) := by
  cases leftmost with
  | gap => cases cut
  | @qualifier _ q _ stands _ =>
    rcases ends_of_at? stands.2 with closed | blank
    · have ends := endsInWord_source (source_prefix_of_at? stands.2).2 []
      rw [List.nil_append, closed] at ends
      exact words_append_of_last ends _
    · exact words_append_of_head (fun c first => not_alnum_of_blank (blank c first)) _

/-- The words of what is left are those of the gaps. -/
lemma Leftmost.words_kept (leftmost : Leftmost front pieces) (suffix : gap <:+ front) :
    words (gap ++ pieces.flatMap Segment.kept) = (gapsFrom gap pieces).flatMap words := by
  -- the open gap is an end of what has been read, so it does not end inside a word where a cut
  -- comes next
  induction pieces generalizing front gap with
  | nil => simp [gapsFrom]
  | cons piece pieces ih =>
    rw [List.flatMap_cons]
    by_cases cut : piece.isCut
    · have outside := endsInWord_of_suffix suffix (leftmost.front_of_isCut cut)
      rw [kept_of_isCut cut, words_append_of_last outside, gapsFrom_of_isCut cut, List.flatMap_cons,
        ih leftmost.tail List.nil_suffix]
    · have grown : gap ++ piece.source <:+ front ++ piece.source :=
        List.suffix_append_self_iff.2 suffix
      rw [kept_of_not_isCut cut, ← List.append_assoc, gapsFrom_of_not_isCut cut,
        ih leftmost.tail grown]

/-- The words of a text are those of its gaps and of its cuts. -/
lemma Leftmost.words_textOf (leftmost : Leftmost front pieces) (suffix : gap <:+ front) :
    words (gap ++ textOf pieces) = (List.zipWith (fun gap cut => words gap ++ words cut)
      (gapsFrom gap pieces) (cuts pieces ++ [[]])).flatten := by
  induction pieces generalizing front gap with
  | nil => simp [gapsFrom, cuts, words_nil]
  | cons piece pieces ih =>
    rw [textOf_cons]
    by_cases cut : piece.isCut
    · have outside := endsInWord_of_suffix suffix (leftmost.front_of_isCut cut)
      have rest := ih leftmost.tail List.nil_suffix
      rw [List.nil_append] at rest
      rw [words_append_of_last outside, leftmost.words_of_isCut cut, gapsFrom_of_isCut cut,
        cuts_of_isCut cut, List.cons_append, List.zipWith_cons_cons, List.flatten_cons, rest,
        List.append_assoc]
    · have grown : gap ++ piece.source <:+ front ++ piece.source :=
        List.suffix_append_self_iff.2 suffix
      rw [← List.append_assoc, gapsFrom_of_not_isCut cut, cuts_of_not_isCut cut,
        ih leftmost.tail grown]

/-! ## The query -/

/-- A text in which no qualifier is read is one gap. -/
lemma flatMap_segments_of_clear {α : Type} {f : Segment → List α} (additive : Additive f)
    (clear : Clear [] cs []) :
    (segments cs).flatMap f = f (.gap cs) := by
  have alone : textOf [.gap cs] = cs := by simp [Segment.source]
  have leftmost : Leftmost [] [.gap cs] := .gap clear .nil
  have read := leftmost.flatMap_segments additive
  rwa [alone, List.flatMap_singleton] at read

/-- Nothing is read in a blank text. -/
lemma clear_of_blank (blank : cs.all isBlank = true) : Clear [] cs [] :=
  clear_of_colon fun mem => by cases List.all_eq_true.1 blank ':' mem

/-- A blank text has no words. -/
lemma words_of_blank (blank : cs.all isBlank = true) : words cs = [] := by
  have unlettered : ∀ c ∈ cs, isAlnum c = false := fun c own =>
    not_alnum_of_blank (List.all_eq_true.1 blank c own)
  have none := words_append_of_unlettered unlettered []
  rwa [List.append_nil] at none

/-- The words of a query in a column are those of its pieces, whether it is blank or not. -/
lemma terms_parse (cs : List Char) (column : Column) :
    (parse cs).terms column = (segments cs).flatMap (Segment.terms column) := by
  rw [parse]
  split
  · next blank =>
    rw [flatMap_segments_of_clear (additive_terms column) (clear_of_blank blank)]
    cases column <;> rfl
  · exact terms_ofSegments _ _

/-- The remainder of a query is what its pieces leave, and nothing if the query is blank. -/
lemma remainder_parse (cs : List Char) : (parse cs).remainder =
    if cs.all isBlank then [] else (segments cs).flatMap Segment.kept := by
  rw [parse]
  split <;> rfl

/-- The words without qualifier are those of what the pieces leave. -/
lemma general_parse (cs : List Char) :
    (parse cs).general = words ((segments cs).flatMap Segment.kept) := by
  rw [general_eq, remainder_parse]
  split
  · next blank =>
    rw [flatMap_segments_of_clear additive_kept (clear_of_blank blank), Segment.kept,
      words_of_blank blank, words_nil]
  · rfl

/-- A query is its gaps and, between them, the qualifiers that are cut out, each of them at the
first place where a qualifier is read. What is left are the gaps, and its words are those of the
gaps, one by one. No word of the query goes over an end of a cut either. -/
theorem parse_gaps (cs : List Char) :
    Leftmost [] (segments cs) ∧ textOf (segments cs) = cs ∧
      (gaps (segments cs)).length = (cuts (segments cs)).length + 1 ∧
      (List.zipWith (· ++ ·) (gaps (segments cs)) (cuts (segments cs) ++ [[]])).flatten = cs ∧
      (parse cs).remainder = (if cs.all isBlank then [] else (gaps (segments cs)).flatten) ∧
      (parse cs).general = (gaps (segments cs)).flatMap words ∧
      words cs = (List.zipWith (fun gap cut => words gap ++ words cut)
        (gaps (segments cs)) (cuts (segments cs) ++ [[]])).flatten := by
  obtain ⟨leftmost, whole⟩ := leftmost_segments cs
  have left : (gaps (segments cs)).flatten = (segments cs).flatMap Segment.kept :=
    flatten_gapsFrom _ _
  have general : words ((segments cs).flatMap Segment.kept) = (gaps (segments cs)).flatMap words :=
    leftmost.words_kept List.nil_suffix
  have parts := leftmost.words_textOf List.nil_suffix
  have turns := flatten_gapsFrom_cuts [] (segments cs)
  rw [List.nil_append, whole] at parts turns
  refine ⟨leftmost, whole, length_gapsFrom _ _, turns, ?_, ?_, parts⟩
  · rw [remainder_parse, left]
  · rw [general_parse, general]

end BookCatalog.Query
