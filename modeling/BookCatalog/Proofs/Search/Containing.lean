import BookCatalog.Proofs.Query.Fallback
import BookCatalog.Proofs.Search.Pattern
import BookCatalog.Proofs.Search.Selecting

/-!
# Searches for a part of a text

A query without words is looked for as a part of the texts of a book. In any library whose tables
are there, such a search finds the books with a text in which it is seen (`Library.mem_found_ids`),
and it counts each of them once (`Library.search_containing`). The central notions:

* `Filter.LooksFor`: the query of a filter has no words, and a filter asks for nothing else.
* `Library.textsOf`: the texts of a book that such a search looks at.
* `Seen`: what a search sees of a text. It sees nothing behind a U+0000, and no capital in lowercase
  other than those of ASCII, and it does not tell U+FFFE and U+FFFF from U+FFFD
  (`lower_infix_of_seen`, `seen_of_lower_infix`).
-/

namespace BookCatalog

open Text (lower isAlnum isCircled lowerChar)

/-- A filter with a query that has no words and is looked for as `t`, and with nothing else. -/
structure Filter.LooksFor (f : Filter) (t : List Char) : Prop where
  free : '\x00' ∉ f.query.toList
  nonblank : f.query.toList.all Text.isBlank = false
  unworded : (Query.parse f.query.toList).clauses = []
  fallback : (Query.parse f.query.toList).fallback = t
  ne : t ≠ []
  simple : Pattern.isTooComplex (containsPattern t) = false
  unnamed : f.authors = [] ∧ f.series = [] ∧ f.genres = [] ∧ f.languages = [] ∧ f.formats = []
  undated : f.yearFrom ≤ 0 ∧ f.yearTo ≤ 0

/-- A text is seen in another one. -/
def Seen (t text : List Char) : Prop :=
  (lower t).map Pattern.readAs <:+: (Pattern.terminated text).map Pattern.readAs

instance (t text : List Char) : Decidable (Seen t text) :=
  inferInstanceAs (Decidable (_ <:+: _))

variable {f : Filter} {t text : List Char} {c : Char}

/-! ## What is looked for -/

namespace Filter.LooksFor

/-- The query is the only condition. -/
lemma criteria (looks : f.LooksFor t) : f.criteria = [.containing t] := by
  obtain ⟨-, nonblank, unworded, fallback, ne, -, ⟨authors, series, genres, languages, formats⟩,
    since, until_⟩ := looks
  have query : queryCriteria f.query = [.containing t] := by
    rw [queryCriteria, nonblank]
    simp [unworded, fallback, ne]
  simp [Filter.criteria, query, nameCriteria, authors, series, genres, languages, formats,
    not_lt.2 since, not_lt.2 until_]

/-- The query is the only condition of the plan. -/
lemma plan_criteria (looks : f.LooksFor t) : f.plan.criteria = [.containing t] :=
  looks.criteria

/-- The authors are looked at. -/
lemma usesAuthors (looks : f.LooksFor t) : f.plan.usesAuthors = true := by
  rw [Plan.usesAuthors, looks.plan_criteria]
  rfl

/-- What is looked for has no letters or digits. -/
lemma unlettered (looks : f.LooksFor t) : ∀ c ∈ t, isAlnum c = false :=
  fun _ mem => (Query.mem_fallback looks.unworded (looks.fallback ▸ mem)).1

/-- What is looked for is put into lowercase character by character. -/
lemma lower_eq (looks : f.LooksFor t) : lower t = t.map (Text.shift Text.lowerRuns) :=
  Text.lower_of_unlettered looks.unlettered

/-- What is looked for has no letters and no capitals in circles in its lowercase form, and no
U+0000. -/
lemma of_mem_lower (looks : f.LooksFor t) (mem : c ∈ lower t) :
    isAlnum c = false ∧ isCircled c = false ∧ c ≠ '\x00' := by
  rw [looks.lower_eq] at mem
  obtain ⟨d, own, rfl⟩ := List.mem_map.1 mem
  obtain ⟨alnum, circled, zero⟩ := Text.shift_unlettered (looks.unlettered d own)
  refine ⟨alnum, circled, fun e => ?_⟩
  cases zero e
  rcases (Query.mem_fallback looks.unworded (looks.fallback ▸ own)).2 with space | asked
  · cases space
  · exact looks.free asked

/-- Without capitals in circles, what is looked for is lowercase as it stands. -/
lemma lower_eq_self (looks : f.LooksFor t) (small : ∀ c ∈ t, isCircled c = false) :
    lower t = t := by
  rw [looks.lower_eq]
  conv_rhs => rw [← List.map_id t]
  exact List.map_congr_left fun c mem => Text.shift_eq_self (looks.unlettered c mem) (small c mem)

/-- The pattern matches the texts in which the text is seen. -/
lemma fitsText_iff (looks : f.LooksFor t) (s : String) :
    fitsText (containsPattern t) (some s) = true ↔ Seen t s.toList := by
  have free : '\x00' ∉ lower t := fun mem => (looks.of_mem_lower mem).2.2 rfl
  rw [Pattern.fitsText_containing free]
  exact Pattern.infix_map_letter fun c mem => (looks.of_mem_lower mem).1

/-- What is seen in a text occurs in it as it is read, case ignored. -/
lemma lower_infix_of_seen (looks : f.LooksFor t) (seen : Seen t text) :
    (lower t).map Pattern.readAs <:+: lower (text.map Pattern.readAs) := by
  apply Text.occurs_lower
  · intro c mem
    obtain ⟨d, own, rfl⟩ := List.mem_map.1 mem
    exact Pattern.isAlnum_readAs (looks.of_mem_lower own).1
  · intro c mem
    obtain ⟨d, own, rfl⟩ := List.mem_map.1 mem
    exact Pattern.isCircled_readAs (looks.of_mem_lower own).2.1
  · exact seen.trans ((List.takeWhile_prefix _).isInfix.map Pattern.readAs)

/-- What occurs in a text, case ignored, is seen in it, unless there is a U+0000 or it comes from a
capital whose lowercase form is not seen. -/
lemma seen_of_lower_infix (looks : f.LooksFor t) (free : '\x00' ∉ text)
    (own : ∀ c ∈ text, c = 'İ' ∨ isCircled c = true → ∀ d ∈ lowerChar c, d ∉ lower t)
    (occurs : lower t <:+: lower text) : Seen t text := by
  rw [Seen, Pattern.terminated_of_free free]
  exact (Text.occurs_of_lower (fun c mem => (looks.of_mem_lower mem).1) own occurs).map
    Pattern.readAs

end Filter.LooksFor

/-! ## Books -/

namespace Library

variable {lib : Library} {p : Plan} {b : StoredBook} {id : String}

/-- The authors that a book is linked to. -/
def writers (lib : Library) (bookId : String) : List Named :=
  (lib.links.filter (·.bookId = bookId)).filterMap fun l => lib.authors.byId? l.authorId

/-- The title, the annotation and the series of a book, and its authors. -/
def textsOf (lib : Library) (b : StoredBook) : List String :=
  b.title :: b.annotation.toList ++
    ((nameOf? lib.series b.seriesId).toList ++ lib.writers b.id).map Named.name

/-- The choices are the rows. -/
lemma mem_orNone {α : Type} {rows : List α} {a : α} : some a ∈ orNone rows ↔ a ∈ rows := by
  rw [orNone]
  split
  · next none => simp [List.isEmpty_iff.1 none]
  · simp

/-- There is always a choice. -/
lemma orNone_ne_nil {α : Type} (rows : List α) : orNone rows ≠ [] := by
  rw [orNone]
  split
  · exact List.cons_ne_nil _ _
  · next some => simpa using some

/-- One of several rows, or none, meets a condition that does not depend on it or one that holds of
a row. -/
lemma exists_orNone_iff {α : Type} {rows : List α} {always : Prop} {holds : α → Prop} :
    (∃ choice ∈ orNone rows, always ∨ ∃ a, choice = some a ∧ holds a) ↔
    always ∨ ∃ a ∈ rows, holds a := by
  constructor
  · rintro ⟨choice, mem, known | ⟨a, rfl, held⟩⟩
    · exact .inl known
    · exact .inr ⟨a, mem_orNone.1 mem, held⟩
  · rintro (known | ⟨a, mem, held⟩)
    · obtain ⟨choice, mem⟩ := List.exists_mem_of_ne_nil _ (orNone_ne_nil rows)
      exact ⟨choice, mem, .inl known⟩
    · exact ⟨some a, mem_orNone.2 mem, .inr ⟨a, rfl, held⟩⟩

/-- A row of a book is looked at for the texts of the book itself and for the author of the row. -/
lemma holds_containing (looks : f.LooksFor t) (author : Option Named) :
    (Criterion.containing t).holds
        ⟨b, nameOf? lib.series b.seriesId, nameOf? lib.genres b.genreId, none, author⟩ = true ↔
      (Seen t b.title.toList ∨ (∃ s, b.annotation = some s ∧ Seen t s.toList) ∨
        ∃ a, nameOf? lib.series b.seriesId = some a ∧ Seen t a.name.toList) ∨
      ∃ a, author = some a ∧ Seen t a.name.toList := by
  have known : ∀ text : Option String, fitsText (containsPattern t) text = true ↔
      ∃ s, text = some s ∧ Seen t s.toList := by
    intro text
    cases text with
    | none => exact ⟨nofun, nofun⟩
    | some s => simp only [looks.fitsText_iff, Option.some.injEq, exists_eq_left']
  have named : ∀ name : Option Named, fitsText (containsPattern t) (name.map Named.name) = true ↔
      ∃ a, name = some a ∧ Seen t a.name.toList := by
    intro name
    cases name with
    | none => exact ⟨nofun, nofun⟩
    | some a => simp only [Option.map_some, looks.fitsText_iff, Option.some.injEq, exists_eq_left']
  rw [Criterion.holds, Joined.texts]
  simp only [List.any_cons, List.any_nil, Bool.or_false, Bool.or_eq_true, looks.fitsText_iff,
    known b.annotation, named, or_assoc]
  exact or_congr_right (or_congr_right or_comm)

/-- A book is selected if what is looked for is seen in one of its texts. -/
theorem selects_containing (looks : f.LooksFor t) :
    lib.selects f.plan b = true ↔ ∃ text ∈ lib.textsOf b, Seen t text.toList := by
  have index : f.plan.usesIndex = false := by
    rw [Plan.usesIndex, looks.plan_criteria]
    rfl
  have rows : lib.selects f.plan b = true ↔ ∃ author ∈ orNone (lib.writers b.id),
      (Criterion.containing t).holds
        ⟨b, nameOf? lib.series b.seriesId, nameOf? lib.genres b.genreId, none, author⟩ = true := by
    simp [selects, joined, index, looks.usesAuthors, Plan.accepts, looks.plan_criteria, writers]
  rw [rows]
  simp only [holds_containing looks, exists_orNone_iff]
  simp [textsOf, or_assoc, or_and_right, exists_or]

/-! ## The search -/

/-- The books with a selected row. -/
lemma mem_found_ids : id ∈ (lib.found p).map (·.book.id) ↔
    ∃ b ∈ lib.books, b.id = id ∧ lib.selects p b = true := by
  constructor
  · intro listed
    obtain ⟨j, found, rfl⟩ := List.mem_map.1 listed
    obtain ⟨b, stored, matched⟩ := List.mem_flatMap.1 ((found_perm p).mem_iff.1 found)
    refine ⟨b, stored, ?_, ?_⟩
    · rw [(book_of_mem_joined (mem_joined_of_mem_matching matched).1).1]
    · rw [← Bool.not_eq_false, ← matching_eq_nil]
      exact List.ne_nil_of_mem matched
  · rintro ⟨b, stored, rfl, selected⟩
    have some : matching p (lib.joined p (lib.hits p) b) ≠ [] := by
      rw [ne_eq, matching_eq_nil, selected]
      exact Bool.noConfusion
    obtain ⟨j, matched⟩ := List.exists_mem_of_ne_nil _ some
    refine List.mem_map.2
      ⟨j, (found_perm p).mem_iff.2 (List.mem_flatMap.2 ⟨b, stored, matched⟩), ?_⟩
    rw [(book_of_mem_joined (mem_joined_of_mem_matching matched).1).1]

/-- A search that looks at the authors selects one row of a book. -/
lemma length_matching_of_authors (uses : p.usesAuthors = true) :
    (matching p (lib.joined p (lib.hits p) b)).length = if lib.selects p b then 1 else 0 := by
  have few : (matching p (lib.joined p (lib.hits p) b)).length ≤ 1 := by
    rw [matching, if_pos uses]
    exact List.length_take_le _ _
  cases selected : lib.selects p b with
  | false =>
    rw [matching_eq_nil.2 selected]
    rfl
  | true =>
    have some : matching p (lib.joined p (lib.hits p) b) ≠ [] := by
      rw [ne_eq, matching_eq_nil, selected]
      exact Bool.noConfusion
    exact le_antisymm few (List.length_pos_of_ne_nil some)

/-- A search that looks at the authors counts as many books as it selects rows. -/
lemma countP_candidates_of_authors (uses : p.usesAuthors = true) :
    (lib.candidates p).countP (·.any p.accepts) = (lib.found p).length := by
  rw [(found_perm p).length_eq, candidates, List.countP_map, List.length_flatMap]
  induction lib.books with
  | nil => rfl
  | cons b rest ih =>
    rw [List.countP_cons, List.map_cons, List.sum_cons, ih, length_matching_of_authors uses,
      Nat.add_comm]
    rfl

/-- With the authors joined, no book is found twice. -/
lemma found_ids_nodup_of_authors (uses : p.usesAuthors = true)
    (nodup : (lib.books.map (·.id)).Nodup) :
    ((lib.found p).map (·.book.id)).Nodup := by
  refine List.nodup_iff_count_le_one.2 fun id => ?_
  rw [((found_perm p).map _).count_eq, List.map_flatMap]
  refine count_flatMap_le (fun b id mem => ?_) (fun b _ => ?_) nodup
  · obtain ⟨j, matched, rfl⟩ := List.mem_map.1 mem
    rw [(book_of_mem_joined (mem_joined_of_mem_matching matched).1).1]
  · rw [List.length_map, length_matching_of_authors uses]
    split <;> decide

/-- A search for a part of a text succeeds, lists a part of the selected books and counts all of
them. -/
theorem search_containing (ready : lib.Ready) (looks : f.LooksFor t)
    (limit : fitsColumn f.plan.limit = true) (offset : fitsColumn f.plan.offset = true) :
    ∃ page, lib.search f = .ok page ∧ page.total = (lib.found f.plan).length ∧
      page.items.map (·.id) =
      slice f.plan.limit f.plan.offset ((lib.found f.plan).map (·.book.id)) := by
  have integers : f.plan.integers = [] := by
    rw [Plan.integers, looks.plan_criteria]
    rfl
  have fits : needFits (f.plan.integers ++ [f.plan.limit, f.plan.offset]) = .ok () := by
    rw [needFits_eq_ok, integers]
    simp [limit, offset]
  have simple : needSimple f.plan (lib.candidates f.plan) = .ok () := by
    apply needSimple_of_criteria
    rw [looks.plan_criteria]
    exact List.forall_mem_singleton.2 looks.simple
  have counted : lib.count f.plan (lib.candidates f.plan) = .ok (lib.found f.plan).length := by
    rw [count, ready.needTables_plan, integers, simple,
      countP_candidates_of_authors looks.usesAuthors]
    rfl
  have found : ∃ page, lib.search f = .ok page ∧ page.total = (lib.found f.plan).length := by
    simp only [search, counted, ready.needTables_plan, fits, needSimple_page, simple,
      ready.hydrate_eq]
    exact ⟨_, rfl, rfl⟩
  obtain ⟨page, ok, total⟩ := found
  exact ⟨page, ok, total, search_ok_ids ok⟩

end Library

end BookCatalog
