import BookCatalog.Proofs.Search.Selecting

/-!
# The order of a result

A search orders joined rows by a key, in one of two directions, and by id where the key does not
tell them apart. The central notions:

* `Order.cmp`: the order of two rows, which is a total one (`Order.puts_iff`), so that every result
  is sorted by it (`Library.found_sorted`).
* `Order.Before`: the order of two submissions. Of different books, no two are at the same place.
* `Filter.Asks`: the order that a filter asks for.
* `Library.Represents.results_sorted`: the books of a result stand in the order of their last
  submissions.
-/

namespace BookCatalog

/-! ## The order of rows -/

section Rows

variable {α : Type} {a b c : Joined}

/-- What is missing comes first, as in the order of options. -/
lemma compareMissing_eq [Ord α] (x y : Option α) : compareMissing x y = compare x y := by
  cases x <;> cases y <;> rfl

/-- The order by a key is transitive. -/
lemma SortKey.transCmp (key : SortKey) : Std.TransCmp fun a b : Joined => key.compare a b := by
  cases key with
  | title => exact inferInstanceAs (Std.TransCmp (compareOn fun j : Joined => j.book.title))
  | year =>
    simp only [SortKey.compare, compareMissing_eq]
    exact inferInstanceAs (Std.TransCmp (compareOn fun j : Joined => j.book.year))
  | dateAdded =>
    simp only [SortKey.compare, compareMissing_eq]
    exact inferInstanceAs (Std.TransCmp (compareOn fun j : Joined => j.book.dateAdded))
  | rank =>
    exact inferInstanceAs
      (Std.TransCmp (compareOn fun j : Joined => rankPlace ((j.hit.map Hit.rank).getD 0.0)))

/-- The order of two rows by a key in a direction. -/
def Order.keyCmp (o : Order) (a b : Joined) : Ordering :=
  if o.descending then o.key.compare b a else o.key.compare a b

/-- The order of two rows, those that the key does not tell apart by their ids. -/
def Order.cmp (o : Order) : Joined → Joined → Ordering :=
  compareLex o.keyCmp (compareOn (·.book.id))

/-- So is the order by a key and an id. -/
lemma Order.transCmp (o : Order) : Std.TransCmp o.cmp := by
  have byKey := o.key.transCmp
  have directed : Std.TransCmp o.keyCmp := by
    by_cases descending : o.descending = true
    · have same : o.keyCmp = fun a b => o.key.compare b a := by
        funext a b
        rw [keyCmp, if_pos descending]
      exact same ▸ Std.TransCmp.opposite
    · have same : o.keyCmp = fun a b => o.key.compare a b := by
        funext a b
        rw [keyCmp, if_neg descending]
      exact same ▸ byKey
  exact inferInstanceAs (Std.TransCmp (compareLex o.keyCmp (compareOn (·.book.id))))

/-- Ids are compared as texts are. -/
lemma compare_id_isLE (s t : String) : (compare s t).isLE = decide (s ≤ t) := by
  rw [Bool.eq_iff_iff, decide_eq_true_eq, ← compare_le_iff_le, Ordering.isLE_iff_ne_gt]

/-- A row is put in front of another one if it is not greater. -/
lemma Order.puts_eq (o : Order) (a b : Joined) : o.puts a b = (o.cmp a b).isLE := by
  have byKey := o.key.transCmp
  have swapped : o.key.compare b a = (o.key.compare a b).swap := byKey.toOrientedCmp.eq_swap
  rw [puts, cmp, compareLex, keyCmp, swapped]
  cases o.key.compare a b with
  | lt => cases o.descending <;> rfl
  | gt => cases o.descending <;> rfl
  | eq =>
    have tied : (compareOn (fun j : Joined => j.book.id) a b).isLE = _ :=
      compare_id_isLE a.book.id b.book.id
    cases o.descending <;> exact tied.symm

/-- Putting rows in order is transitive. -/
lemma Order.puts_trans (o : Order) (a b c : Joined) (ab : o.puts a b = true)
    (bc : o.puts b c = true) : o.puts a c = true := by
  have trans := o.transCmp
  rw [puts_eq] at ab bc ⊢
  exact Std.TransCmp.isLE_trans ab bc

/-- Of two rows one is put first. -/
lemma Order.puts_total (o : Order) (a b : Joined) : (o.puts a b || o.puts b a) = true := by
  have trans := o.transCmp
  have swapped : o.cmp b a = (o.cmp a b).swap := trans.toOrientedCmp.eq_swap
  rw [puts_eq, puts_eq, swapped]
  cases o.cmp a b <;> rfl

/-- The rows of a result are in order. -/
lemma Library.found_sorted (lib : Library) (p : Plan) :
    (lib.found p).Pairwise fun a b => p.order.puts a b = true :=
  List.pairwise_mergeSort p.order.puts_trans p.order.puts_total _

end Rows

/-! ## The order of submissions -/

/-- The order of two submissions by a key, if their books have some ranks in a search. What is
missing comes first. -/
def SortKey.compareOf (rank : String → Float) (s s' : Submission) : SortKey → Ordering
  | .title => compareMissing s.title s'.title
  | .year => compareMissing s.year s'.year
  | .dateAdded => compareMissing (s.date.map DateTime.iso) (s'.date.map DateTime.iso)
  | .rank => compareRanks (rank s.id) (rank s'.id)

/-- A submission comes before another one: by the key and in its direction, or by its id if the key
does not tell them apart. -/
def Order.Before (o : Order) (rank : String → Float) (s s' : Submission) : Prop :=
  match o.key.compareOf rank s s' with
  | .lt => o.descending = false
  | .gt => o.descending = true
  | .eq => s.id < s'.id

/-- A book comes before another one if its last submission does. -/
def Order.Places (o : Order) (rank : String → Float) (ledger : List Submission)
    (b b' : Book) : Prop :=
  ∃ s s', lastWith? b.id ledger = some s ∧ lastWith? b'.id ledger = some s' ∧ o.Before rank s s'

/-- The order that a filter asks for. A query that has words is sorted by relevance where no other
key is asked for, from the best match down if no direction is. Any other key that is not known sorts
by title. -/
structure Filter.Asks (f : Filter) (o : Order) : Prop where
  rank : o.key = .rank ↔ (Query.parse f.query.toList).clauses ≠ [] ∧
    (Text.lowercase f.sortBy = "relevance" ∨ Text.lowercase f.sortBy = "")
  year : o.key = .year ↔ Text.lowercase f.sortBy = "year"
  dateAdded : o.key = .dateAdded ↔ Text.lowercase f.sortBy = "date_added"
  descending : o.key ≠ .rank → (o.descending = true ↔ Text.lowercase f.sortOrder = "desc")
  ascending : o.key = .rank →
    (o.descending = false ↔ Text.lowercase f.sortOrder = "desc" ∨ Text.lowercase f.sortOrder = "")

/-- Only the query looks at the index, if it has words. -/
lemma Filter.usesIndex_iff {f : Filter} :
    f.criteria.any Criterion.usesIndex = true ↔ (Query.parse f.query.toList).clauses ≠ [] := by
  have names : ∀ column names, (nameCriteria column names).any Criterion.usesIndex = false := by
    intro column names
    rw [nameCriteria]
    split <;> rfl
  have first : (if 0 < f.yearFrom then [Criterion.yearFrom f.yearFrom] else []).any
      Criterion.usesIndex = false := by split <;> rfl
  have last : (if 0 < f.yearTo then [Criterion.yearTo f.yearTo] else []).any
      Criterion.usesIndex = false := by split <;> rfl
  simp only [Filter.criteria, List.any_append, names, first, last, Bool.or_false]
  rcases queryCriteria_cases f.query with ⟨none, unworded⟩ | ⟨worded, indexed⟩ |
    ⟨unworded, -, contains⟩
  · rw [none]
    exact iff_of_false Bool.false_ne_true (not_not_intro unworded)
  · rw [indexed]
    exact iff_of_true rfl worded
  · rw [contains]
    exact iff_of_false Bool.false_ne_true (not_not_intro unworded)

/-- Relevance is asked for by its name, or by no key at all. -/
lemma Order.resolve_relevance {sortBy : String} (sortOrder : String)
    (natural : Text.lowercase sortBy = "relevance" ∨ Text.lowercase sortBy = "") :
    Order.resolve sortBy sortOrder true =
      ⟨.rank, !(Text.lowercase sortOrder = "desc" || Text.lowercase sortOrder = "")⟩ := by
  rcases natural with e | e <;> simp [Order.resolve, e]

/-- Where there is no relevance or it is not asked for, the key is the column that is asked for. -/
lemma Order.resolve_column {sortBy : String} (sortOrder : String) {matched : Bool}
    (other : matched = true → ¬(Text.lowercase sortBy = "relevance" ∨ Text.lowercase sortBy = "")) :
    Order.resolve sortBy sortOrder matched =
      ⟨if Text.lowercase sortBy = "year" then .year
        else if Text.lowercase sortBy = "date_added" then .dateAdded else .title,
        Text.lowercase sortOrder = "desc"⟩ := by
  cases matched with
  | false =>
    simp only [Order.resolve, Bool.and_false, Bool.false_eq_true, if_false]
    split <;> [rfl; split <;> rfl]
  | true =>
    obtain ⟨unnamed, given⟩ := not_or.1 (other rfl)
    simp only [Order.resolve, unnamed, given, decide_false, Bool.false_and, Bool.false_eq_true,
      if_false]
    split <;> [rfl; split <;> rfl]

/-- A plan has the order that its filter asks for. -/
theorem Filter.asks_order (f : Filter) : f.Asks f.plan.order := by
  have plan : f.plan.order =
      Order.resolve f.sortBy f.sortOrder (f.criteria.any Criterion.usesIndex) := rfl
  by_cases relevance : (Query.parse f.query.toList).clauses ≠ [] ∧
    (Text.lowercase f.sortBy = "relevance" ∨ Text.lowercase f.sortBy = "")
  case pos =>
    have matched := Filter.usesIndex_iff.2 relevance.1
    rw [plan, matched, Order.resolve_relevance f.sortOrder relevance.2]
    have year : Text.lowercase f.sortBy ≠ "year" := by rcases relevance.2 with e | e <;> simp [e]
    have date : Text.lowercase f.sortBy ≠ "date_added" := by
      rcases relevance.2 with e | e <;> simp [e]
    exact
      { rank := iff_of_true rfl relevance
        year := iff_of_false nofun year
        dateAdded := iff_of_false nofun date
        descending := fun other => absurd rfl other
        ascending := fun _ => by simp [or_iff_not_imp_left] }
  case neg =>
    have other : f.criteria.any Criterion.usesIndex = true →
        ¬(Text.lowercase f.sortBy = "relevance" ∨ Text.lowercase f.sortBy = "") :=
      fun matched natural => relevance ⟨Filter.usesIndex_iff.1 matched, natural⟩
    rw [plan, Order.resolve_column f.sortOrder other]
    -- the key is one of three columns
    have column : ∀ key, (if Text.lowercase f.sortBy = "year" then SortKey.year
        else if Text.lowercase f.sortBy = "date_added" then .dateAdded else .title) = key ↔
        key = .year ∧ Text.lowercase f.sortBy = "year" ∨
          key = .dateAdded ∧ Text.lowercase f.sortBy = "date_added" ∨
          key = .title ∧ Text.lowercase f.sortBy ≠ "year" ∧
            Text.lowercase f.sortBy ≠ "date_added" := by
      intro key
      by_cases year : Text.lowercase f.sortBy = "year"
      · simp [year, eq_comm]
      · by_cases date : Text.lowercase f.sortBy = "date_added" <;> simp [year, date, eq_comm]
    exact
      { rank := iff_of_false (fun rank => by simpa using (column _).1 rank) relevance
        year := (column _).trans (by simp)
        dateAdded := (column _).trans (by simp)
        descending := fun _ => by simp
        ascending := fun rank => by simpa using (column _).1 rank }

namespace Library

variable {lib : Library} {ledger : List Submission} {p : Plan} {f : Filter} {j j' : Joined}
  {b : StoredBook} {s s' : Submission}

/-- The rank of a book in a search, which is that of its row in the index. -/
def rankOf (lib : Library) (p : Plan) (id : String) : Float :=
  (((lib.hits p).find? (·.row.bookId = id)).map Hit.rank).getD 0.0

/-- A row of a book has the rank of the book. -/
lemma rank_of_mem_joined (single : (lib.index.map (·.bookId)).Nodup)
    (mem : j ∈ lib.joined p (lib.hits p) b) :
    (j.hit.map Hit.rank).getD 0.0 = lib.rankOf p b.id := by
  simp only [joined, List.mem_flatMap, List.mem_map] at mem
  obtain ⟨hit, listed, _, _, rfl⟩ := mem
  rw [rankOf, ← List.head?_filter]
  split at listed
  case isTrue =>
    obtain ⟨h, own, rfl⟩ := List.mem_map.1 listed
    -- the book has one row, so that it is the first one
    have few := (length_hits_le (p := p) (b := b)).trans (List.nodup_iff_count_le_one.1 single b.id)
    obtain ⟨only, rows⟩ := List.length_eq_one_iff.1 (le_antisymm few (List.length_pos_of_mem own))
    rw [rows] at own ⊢
    rw [List.mem_singleton.1 own]
    rfl
  case isFalse blind =>
    cases List.mem_singleton.1 listed
    simp [hits, blind]

/-- A selected row is one of a book, and of the book's last submission. -/
lemma Represents.row_of_mem_found (rep : lib.Represents ledger) (mem : j ∈ lib.found p) :
    ∃ s, lastWith? j.book.id ledger = some s ∧ lib.RowOf s j.book ∧
      (j.hit.map Hit.rank).getD 0.0 = lib.rankOf p j.book.id := by
  obtain ⟨b, stored, matched⟩ := List.mem_flatMap.1 ((found_perm p).mem_iff.1 mem)
  have joined := (mem_joined_of_mem_matching matched).1
  have own := (book_of_mem_joined joined).1
  obtain ⟨s, last, row⟩ := rep.book b stored
  rw [own]
  exact ⟨s, last, row, rank_of_mem_joined rep.tidy.single joined⟩

/-- Rows are compared as the submissions that they are of. -/
lemma compare_rows (row : lib.RowOf s j.book) (row' : lib.RowOf s' j'.book)
    (rank : (j.hit.map Hit.rank).getD 0.0 = lib.rankOf p j.book.id)
    (rank' : (j'.hit.map Hit.rank).getD 0.0 = lib.rankOf p j'.book.id) (key : SortKey) :
    key.compare j j' = key.compareOf (lib.rankOf p) s s' := by
  obtain ⟨seriesId, genreId, now, stored, -, -⟩ := row
  obtain ⟨seriesId', genreId', now', stored', -, -⟩ := row'
  have id := stored?_id stored
  have id' := stored?_id stored'
  obtain ⟨title, titled, eq⟩ := Option.map_eq_some_iff.1 stored
  obtain ⟨title', titled', eq'⟩ := Option.map_eq_some_iff.1 stored'
  cases key with
  | title =>
    rw [SortKey.compareOf, titled, titled', SortKey.compare, ← eq, ← eq']
    rfl
  | year =>
    rw [SortKey.compareOf, SortKey.compare, ← eq, ← eq']
  | dateAdded =>
    rw [SortKey.compareOf, SortKey.compare, ← eq, ← eq']
  | rank =>
    rw [SortKey.compareOf, SortKey.compare, rank, rank', id, id']

/-- Of two rows of different books, the one that does not come behind comes before. -/
lemma before_of_puts {o : Order} {rank : String → Float}
    (compared : o.key.compare j j' = o.key.compareOf rank s s') (id : j.book.id = s.id)
    (id' : j'.book.id = s'.id) (ne : j.book.id ≠ j'.book.id) (puts : o.puts j j' = true) :
    o.Before rank s s' := by
  rw [Order.puts, compared] at puts
  rw [Order.Before]
  generalize o.key.compareOf rank s s' = order at puts ⊢
  cases order with
  | lt => simpa using puts
  | gt => exact puts
  | eq =>
    have le : s.id ≤ s'.id := by simpa [id, id'] using puts
    exact lt_of_le_of_ne le (id ▸ id' ▸ ne)

/-- The books of a result stand in the order of their last submissions. -/
theorem Represents.results_sorted (rep : lib.Represents ledger) (f : Filter) :
    (lib.results f).Pairwise (f.plan.order.Places (lib.rankOf f.plan) ledger) := by
  rw [results, List.pairwise_map]
  have apart := List.pairwise_map.1 (found_ids_nodup (p := f.plan) rep.tidy.single rep.nodup)
  refine List.Pairwise.imp_of_mem ?_ ((lib.found_sorted f.plan).and apart)
  rintro j j' mem mem' ⟨puts, ne⟩
  obtain ⟨s, last, row, rank⟩ := rep.row_of_mem_found mem
  obtain ⟨s', last', row', rank'⟩ := rep.row_of_mem_found mem'
  have compared := compare_rows row row' rank rank' f.plan.order.key
  obtain ⟨_, _, _, stored, -, -⟩ := row
  obtain ⟨_, _, _, stored', -, -⟩ := row'
  exact ⟨s, s', last, last',
    before_of_puts compared (stored?_id stored) (stored?_id stored') ne puts⟩

end Library

end BookCatalog
