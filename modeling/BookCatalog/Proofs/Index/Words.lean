import BookCatalog.Index.Basic
import BookCatalog.Proofs.Query.Words
import BookCatalog.Query.Basic

/-!
# Words of a query in the index

The index cuts and folds the words of a query by its own table. The central notions:

* `Occurs`: what the index looks for stands somewhere in a list of words, its last word only begun.
* `Finds`: a word of a query is found in a text. Some letters and digits of a query are no part of
  any word of the index, so that a word of a query may be several words there, or none.
* `Begins`: a word of a query begins a word of a text. For a word without such letters this is the
  same (`finds_iff_begins`).
* `Query.meets_clauses_iff`: a row meets the conditions of a query if all of its words are found in
  its texts.
-/

namespace BookCatalog

open Text

namespace Index

variable {w : List Char} {c : Char} {t : Texts} {phrase ws : List (List Char)}

/-! ## Characters -/

/-- How the tables of letters and digits, of foldings and of diacritics lie to each other. -/
lemma diacritic_facts :
    Apart alnumSpans diacriticSpans ∧ Apart (targets foldRuns) diacriticSpans := by
  decide +kernel

/-- Folding does not drop a letter or a digit. -/
lemma isSome_fold? (alnum : isAlnum c = true) : (fold? c).isSome := by
  -- no case is folded to a diacritic
  obtain ⟨alnum_apart, folds_apart⟩ := diacritic_facts
  have kept : isDiacritic (shift foldRuns c) = false :=
    not_covers_shift folds_apart rfl (alnum_apart.not_covers alnum)
  rw [fold?, kept]
  rfl

/-! ## Phrases -/

/-- The words of a phrase stand one behind the other in a list of words; the last one need only
begin its word. A phrase without words occurs nowhere. -/
def Occurs (phrase ws : List (List Char)) : Prop :=
  ∃ first last word, phrase = first ++ [last] ∧ last <+: word ∧ first ++ [word] <:+: ws

/-- A phrase begins a list of words exactly if its words but the last one are there and its last
word begins the word behind them. -/
lemma beginsWith_iff : beginsWith phrase ws = true ↔
    ∃ first last word, phrase = first ++ [last] ∧ last <+: word ∧ first ++ [word] <+: ws := by
  fun_induction beginsWith phrase ws with
  | case1 ws => simp
  | case2 first rest => simp
  | case3 last word more =>
    rw [List.isPrefixOf_iff_prefix]
    constructor
    · exact fun starts => ⟨[], last, word, rfl, starts, by simp⟩
    · rintro ⟨first, last', word', split, starts, stands⟩
      cases first with
      | nil =>
        cases split
        cases (List.cons_prefix_cons.1 stands).1
        exact starts
      | cons head others => simp at split
  | case4 first rest word more several ih =>
    rw [Bool.and_eq_true, beq_iff_eq, ih]
    constructor
    · rintro ⟨rfl, first', last, word', rfl, starts, stands⟩
      exact ⟨first :: first', last, word', rfl, starts, List.cons_prefix_cons.2 ⟨rfl, stands⟩⟩
    · rintro ⟨first', last, word', split, starts, stands⟩
      cases first' with
      | nil =>
        cases split
        exact absurd rfl several
      | cons head others =>
        cases split
        obtain ⟨same, behind⟩ := List.cons_prefix_cons.1 stands
        exact ⟨same, others, last, word', rfl, starts, behind⟩

/-- A phrase is counted if it has been counted before, or begins what is left somewhere. -/
lemma occurrencesFrom_pos (n : Nat) : 0 < occurrencesFrom phrase n ws ↔
    0 < n ∨ ∃ tail, tail <:+ ws ∧ beginsWith phrase tail = true := by
  induction ws generalizing n with
  | nil =>
    have nowhere : beginsWith phrase [] = false := by cases phrase <;> rfl
    simp [occurrencesFrom, nowhere]
  | cons word rest ih =>
    rw [occurrencesFrom, ih]
    simp only [List.suffix_cons_iff, or_and_right, exists_or, exists_eq_left]
    split <;> simp [*]

/-- A phrase is counted in a list of words exactly if it occurs there. -/
lemma occurrences_pos_iff : 0 < occurrencesFrom phrase 0 ws ↔ Occurs phrase ws := by
  rw [occurrencesFrom_pos]
  simp only [Nat.lt_irrefl, false_or, beginsWith_iff]
  constructor
  · rintro ⟨tail, ends, first, last, word, split, starts, stands⟩
    exact ⟨first, last, word, split, starts, stands.isInfix.trans ends.isInfix⟩
  · rintro ⟨first, last, word, split, starts, stands⟩
    obtain ⟨tail, stands, ends⟩ := List.infix_iff_prefix_suffix.1 stands
    exact ⟨tail, ends, first, last, word, split, starts, stands⟩

instance (phrase ws : List (List Char)) : Decidable (Occurs phrase ws) :=
  decidable_of_iff _ occurrences_pos_iff

/-- A phrase of one word occurs if the word begins another one. -/
lemma occurs_singleton : Occurs [w] ws ↔ ∃ word ∈ ws, w <+: word := by
  constructor
  · rintro ⟨first, last, word, split, starts, stands⟩
    cases first with
    | nil =>
      cases split
      exact ⟨word, (List.singleton_infix_iff _ _).1 stands, starts⟩
    | cons head others => simp at split
  · rintro ⟨word, mem, starts⟩
    exact ⟨[], w, word, rfl, starts, (List.singleton_infix_iff _ _).2 mem⟩

/-! ## Words -/

/-- A word of a query as the index reads it. -/
def folded (w : List Char) : List Char :=
  w.filterMap fold?

/-- A word of a query is found in a text: what the index cuts it into occurs in the text. -/
def Finds (w : List Char) (text : String) : Prop :=
  Occurs (words w) (words text.toList)

instance (w : List Char) (text : String) : Decidable (Finds w text) :=
  inferInstanceAs (Decidable (Occurs _ _))

/-- A word of a query begins a word of a text. -/
def Begins (w : List Char) (text : String) : Prop :=
  ∃ word ∈ words text.toList, folded w <+: word

/-- Nothing of a word of the index is dropped in front. -/
lemma wordOf_eq_folded (parts : ∀ c ∈ w, isWordPart c = true) : wordOf w = folded w := by
  have kept : w.dropWhile (fun c => !isWordPart c) = w := by
    cases w with
    | nil => rfl
    | cons c rest => simp [parts c List.mem_cons_self]
  rw [wordOf, kept, folded]

/-- Folding leaves something of a word of a query. -/
lemma folded_ne_nil (ne : w ≠ []) (alnum : ∀ c ∈ w, isAlnum c = true) : folded w ≠ [] := by
  obtain ⟨c, own⟩ := List.exists_mem_of_ne_nil w ne
  obtain ⟨d, kept⟩ := Option.isSome_iff_exists.1 (isSome_fold? (alnum c own))
  exact List.ne_nil_of_mem (List.mem_filterMap.2 ⟨c, own, kept⟩)

/-- The index reads a word of a query as one word if all of its characters are parts of words
there. -/
lemma words_of_isAlnum (ne : w ≠ []) (alnum : ∀ c ∈ w, isAlnum c = true)
    (parts : ∀ c ∈ w, isWordPart c = true) : words w = [folded w] := by
  have inside : ∀ c ∈ w, (isWordPart c || isDiacritic c) = true := fun c own => by
    rw [parts c own, Bool.true_or]
  -- so the word is one run, and nothing of the run is dropped
  rw [words, runs_of_all inside ne, List.map_singleton, wordOf_eq_folded parts]
  exact List.filter_cons_of_pos (by simpa using folded_ne_nil ne alnum)

/-- Such a word is found in a text exactly if it begins one of its words. -/
lemma finds_iff_begins {text : String} (ne : w ≠ []) (alnum : ∀ c ∈ w, isAlnum c = true)
    (parts : ∀ c ∈ w, isWordPart c = true) : Finds w text ↔ Begins w text := by
  rw [Finds, words_of_isAlnum ne alnum parts, occurs_singleton]
  rfl

/-! ## Conditions -/

/-- The words of a column are those of its text. -/
lemma words_column (t : Texts) (column : Query.Column) :
    t.words.column column = words (t.text column).toList := by
  cases column <;> rfl

/-- A word of a query occurs in a column if it is found in its text. -/
lemma occurrences_pos (w : List Char) (column : Query.Column) :
    0 < (Phrase.mk column (words w)).occurrences t.words ↔ Finds w (t.text column) := by
  rw [Phrase.occurrences, words_column, occurrences_pos_iff, Finds]

/-- There is no column but the listed ones. -/
lemma mem_columns (column : Query.Column) : column ∈ Query.Column.all := by
  cases column <;> decide

/-- A clause holds of the texts of a book. -/
def ClauseHolds (t : Texts) : Query.Clause → Prop
  | .anywhere w => ∃ column, Finds w (t.text column)
  | .within column w => Finds w (t.text column)

/-- One of the phrases of a clause occurs in a row exactly if the clause holds of its texts. -/
lemma any_phrase_iff (clause : Query.Clause) :
    (phrasesOf clause).any (fun p => 0 < p.occurrences t.words) = true ↔ ClauseHolds t clause := by
  cases clause with
  | anywhere w =>
    rw [phrasesOf, List.any_map, List.any_eq_true]
    simp only [Function.comp_def, decide_eq_true_eq]
    constructor
    · rintro ⟨column, _, occurs⟩
      exact ⟨column, (occurrences_pos w column).1 occurs⟩
    · rintro ⟨column, found⟩
      exact ⟨column, mem_columns column, (occurrences_pos w column).2 found⟩
  | within column w =>
    rw [phrasesOf, List.any_cons, List.any_nil, Bool.or_false, decide_eq_true_eq]
    exact occurrences_pos w column

end Index

namespace Query

open Index

variable {w cs : List Char} {q : Query} {t : Texts}

/-- Every word of a query is found in the texts of a book: in any column, or in the column that it
is looked for in. `finds` says when a word is found in a text. -/
structure Found (finds : List Char → String → Prop) (q : Query) (t : Texts) : Prop where
  general : ∀ w ∈ q.general, ∃ column, finds w (t.text column)
  within : ∀ column, ∀ w ∈ q.terms column, finds w (t.text column)

/-- The words of a query consist of characters that are parts of words in the index as well. -/
structure Indexed (q : Query) : Prop where
  general : ∀ w ∈ q.general, ∀ c ∈ w, isWordPart c = true
  within : ∀ column, ∀ w ∈ q.terms column, ∀ c ∈ w, isWordPart c = true

/-- The words of a query are not empty and consist of letters and digits. -/
structure Cut (q : Query) : Prop where
  general : ∀ w ∈ q.general, w ≠ [] ∧ ∀ c ∈ w, isAlnum c = true
  within : ∀ column, ∀ w ∈ q.terms column, w ≠ [] ∧ ∀ c ∈ w, isAlnum c = true

/-- The words for a column are those of the pieces, one after the other. -/
lemma terms_ofSegments (pieces : List Segment) (column : Column) :
    (ofSegments pieces).terms column = pieces.flatMap (Segment.terms column) := by
  cases column <;> rfl

/-- A word without qualifier is a word of some text. -/
lemma exists_words_of_general (mem : w ∈ (parse cs).general) : ∃ text, w ∈ words text := by
  rw [parse] at mem
  split at mem
  case isTrue => cases mem
  case isFalse => exact ⟨_, mem⟩

/-- A word for a column is a word of some text. -/
lemma exists_words_of_terms {column : Column} (mem : w ∈ (parse cs).terms column) :
    ∃ text, w ∈ words text := by
  rw [parse] at mem
  split at mem
  case isTrue => cases column <;> cases mem
  case isFalse =>
    rw [terms_ofSegments, List.mem_flatMap] at mem
    obtain ⟨piece, -, mem⟩ := mem
    cases piece with
    | gap => cases mem
    | qualifier q =>
      rw [Segment.terms] at mem
      split at mem
      · exact ⟨_, mem⟩
      · cases mem

/-- All words of a query are cut out of texts. -/
lemma parse_cut (cs : List Char) : (parse cs).Cut where
  general _ mem := by
    obtain ⟨text, mem⟩ := exists_words_of_general mem
    exact ⟨(isWord_of_mem_words mem).ne, (isWord_of_mem_words mem).alnum⟩
  within _ _ mem := by
    obtain ⟨text, mem⟩ := exists_words_of_terms mem
    exact ⟨(isWord_of_mem_words mem).ne, (isWord_of_mem_words mem).alnum⟩

/-- The conditions of a query, one for each of its words. -/
lemma mem_clauses {clause : Clause} : clause ∈ q.clauses ↔
    (∃ w ∈ distinct q.general, clause = .anywhere w) ∨
      ∃ column, ∃ w ∈ distinct (q.terms column), clause = .within column w := by
  simp only [clauses, List.mem_append, List.mem_flatMap, List.mem_map, eq_comm (a := clause)]
  refine or_congr_right (exists_congr fun column => and_iff_right ?_)
  cases column <;> decide

/-- A row meets the conditions of a query exactly if its words are found in the texts of the row. -/
theorem meets_clauses_iff (cut : q.Cut) : meets q.clauses t.words = true ↔ q.Found Finds t := by
  rw [meets, List.all_eq_true]
  constructor
  · intro met
    refine ⟨fun w mem => ?_, fun column w mem => ?_⟩
    · have listed : Clause.anywhere w ∈ q.clauses :=
        mem_clauses.2 (.inl ⟨w, (mem_distinct (cut.general w mem).1).2 mem, rfl⟩)
      exact (any_phrase_iff (.anywhere w)).1 (met _ listed)
    · have listed : Clause.within column w ∈ q.clauses :=
        mem_clauses.2 (.inr ⟨column, w, (mem_distinct (cut.within column w mem).1).2 mem, rfl⟩)
      exact (any_phrase_iff (.within column w)).1 (met _ listed)
  · intro found clause listed
    rcases mem_clauses.1 listed with ⟨w, mem, rfl⟩ | ⟨column, w, mem, rfl⟩
    · exact (any_phrase_iff (.anywhere w)).2 (found.general w (ne_nil_of_mem_distinct mem).2)
    · exact (any_phrase_iff (.within column w)).2
        (found.within column w (ne_nil_of_mem_distinct mem).2)

/-- Words of such characters are found exactly where they begin words. -/
theorem found_iff_of_indexed (cut : q.Cut) (indexed : q.Indexed) :
    q.Found Finds t ↔ q.Found Begins t := by
  have general : ∀ w ∈ q.general, ∀ text, Finds w text ↔ Begins w text := fun w mem _ =>
    finds_iff_begins (cut.general w mem).1 (cut.general w mem).2 (indexed.general w mem)
  have within : ∀ column, ∀ w ∈ q.terms column, ∀ text, Finds w text ↔ Begins w text :=
    fun column w mem _ =>
      finds_iff_begins (cut.within column w mem).1 (cut.within column w mem).2
        (indexed.within column w mem)
  constructor
  · rintro ⟨anywhere, inside⟩
    refine ⟨fun w mem => ?_, fun column w mem => (within column w mem _).1 (inside column w mem)⟩
    exact (anywhere w mem).imp fun _ found => (general w mem _).1 found
  · rintro ⟨anywhere, inside⟩
    refine ⟨fun w mem => ?_, fun column w mem => (within column w mem _).2 (inside column w mem)⟩
    exact (anywhere w mem).imp fun _ begun => (general w mem _).2 begun

end Query

end BookCatalog
