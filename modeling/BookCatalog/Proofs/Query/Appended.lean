import BookCatalog.Proofs.Query.Gaps

/-!
# A word behind a query

A word that is put behind a query with a space is read as such, whatever the query is: it is no part
of a value in front of it, and it closes no quote. So the query is cut as before
(`Leftmost.append_gap`), and the word is one more word that is looked for in any column
(`general_append`, `terms_append`).
-/

namespace BookCatalog.Query

open Text

variable {cs w front text back : List Char} {q : Qualifier} {pieces : List Segment}

/-- A word without quotes that is put behind a clear text leaves it clear. -/
lemma Clear.append (clear : Clear front text back) (quote : '"' ∉ w) :
    Clear front text (back ++ ' ' :: w) := by
  rintro before after parts some q ⟨outside, found⟩
  rw [← List.append_assoc, at?_append quote] at found
  exact clear before after parts some q ⟨outside, found⟩

/-- A qualifier stands where it is, whatever word is put behind. -/
lemma Qualifier.Stands.append (stands : q.Stands front back) (quote : '"' ∉ w) :
    q.Stands front (back ++ ' ' :: w) :=
  ⟨stands.1, by rw [at?_append quote, stands.2]⟩

/-- A last gap is the end of the text. -/
lemma textOf_append_gap (pieces : List Segment) (text : List Char) :
    textOf (pieces ++ [.gap text]) = textOf pieces ++ text := by
  rw [textOf_append, textOf_cons, textOf_nil, List.append_nil, Segment.source]

/-- A space and a text without quotes and colons are one more gap. -/
lemma Leftmost.append_gap (leftmost : Leftmost front pieces) (quote : '"' ∉ w) (colon : ':' ∉ w) :
    Leftmost front (pieces ++ [.gap (' ' :: w)]) := by
  induction leftmost with
  | nil =>
    have clear : ':' ∉ ' ' :: w := by simpa using colon
    exact .gap (clear_of_colon clear) .nil
  | gap clear _ ih =>
    rw [List.cons_append]
    refine .gap ?_ ih
    rw [textOf_append_gap]
    exact clear.append quote
  | qualifier stands _ ih =>
    rw [List.cons_append]
    refine .qualifier ?_ ih
    rw [textOf_append_gap, ← List.append_assoc]
    exact stands.append quote

/-- What is put behind a query is one more gap of it. -/
lemma flatMap_segments_append {α : Type} {f : Segment → List α} (additive : Additive f)
    (quote : '"' ∉ w) (colon : ':' ∉ w) :
    (segments (cs ++ ' ' :: w)).flatMap f = (segments cs).flatMap f ++ f (.gap (' ' :: w)) := by
  obtain ⟨leftmost, whole⟩ := leftmost_segments cs
  have read := (leftmost.append_gap quote colon).flatMap_segments additive
  rwa [textOf_append_gap, whole, List.flatMap_append, List.flatMap_singleton] at read

/-- A word that is put behind a query is no word for a column. -/
lemma terms_append (quote : '"' ∉ w) (colon : ':' ∉ w) (column : Column) :
    (parse (cs ++ ' ' :: w)).terms column = (parse cs).terms column := by
  rw [terms_parse, terms_parse, flatMap_segments_append (additive_terms column) quote colon,
    Segment.terms, List.append_nil]

/-- A word that is put behind a query is looked for in any column, after the others. -/
lemma general_append (quote : '"' ∉ w) (colon : ':' ∉ w) :
    (parse (cs ++ ' ' :: w)).general = (parse cs).general ++ words w := by
  rw [general_parse, general_parse, flatMap_segments_append additive_kept quote colon, Segment.kept,
    words_append_sep rfl]

/-- A word of letters and digits is looked for in addition to all words of the query in front of
it. -/
theorem parse_append_word (alnum : ∀ c ∈ w, isAlnum c = true) :
    (∀ column, (parse (cs ++ ' ' :: w)).terms column = (parse cs).terms column) ∧
      (parse (cs ++ ' ' :: w)).general = (parse cs).general ++ words w := by
  have quote : '"' ∉ w := fun mem => by cases alnum '"' mem
  have colon : ':' ∉ w := fun mem => by cases alnum ':' mem
  exact ⟨terms_append quote colon, general_append quote colon⟩

/-- A text of letters and digits has a word. -/
lemma words_ne_nil (some : w ≠ []) (alnum : ∀ c ∈ w, isAlnum c = true) : words w ≠ [] := by
  intro none
  obtain ⟨c, mem⟩ := List.exists_mem_of_ne_nil w some
  have other := unlettered_of_words_nil none c mem
  rw [alnum c mem] at other
  cases other

end BookCatalog.Query
