import BookCatalog.Library.Lookup
import BookCatalog.Proofs.Library.Names

/-!
# Books with their authors

The authors of several books are asked for together, for so many ids at a time, and given to the
books one after the other. The central notions:

* `pieces_flatten`: the pieces of a list are all of it, in order.
* `Library.authorsOf`: the authors of one book, looked up on its own.
* `Library.withAuthors_eq`: where no book is listed twice, every book gets its own authors, whatever
  other books are listed with it.
-/

namespace BookCatalog

/-! ## Parts of a list -/

section Slice

variable {α β : Type} (limit offset : Int) {items : List α}

/-- A part of a list is taken before or after each item is changed. -/
lemma slice_map (f : α → β) :
    (slice limit offset items).map f = slice limit offset (items.map f) := by
  rw [slice, slice, List.map_take, List.map_drop]

/-- A part of a list keeps the order of the list. -/
lemma slice_sublist : (slice limit offset items).Sublist items :=
  (List.take_sublist _ _).trans (List.drop_sublist _ _)

/-- A part that begins at a multiple of its size. -/
lemma slice_nat (size k : Nat) (items : List α) :
    slice size (k * size) items = (items.drop (k * size)).take size := by
  rw [slice, ← Nat.cast_mul, Int.toNat_natCast, Int.toNat_natCast]

/-- Parts of one length, each beginning where the one before it ends, are a part from the
beginning. -/
lemma flatMap_slice (size n : Nat) (items : List α) :
    (List.range n).flatMap (fun (k : Nat) => slice size (k * size) items) =
    items.take (n * size) := by
  induction n with
  | zero => simp
  | succ n ih =>
    rw [List.range_succ, List.flatMap_append, ih, List.flatMap_singleton, slice_nat, Nat.succ_mul,
      List.take_add]

/-- The pieces of a list, put together again, are the list. -/
lemma pieces_flatten {size : Nat} (pos : 0 < size) (items : List α) :
    (pieces size items).flatten = items := by
  have enough : items.length ≤ (items.length + size - 1) / size * size := by
    have whole := Nat.div_add_mod' (items.length + size - 1) size
    have rest := Nat.mod_lt (items.length + size - 1) pos
    omega
  rw [pieces, ← List.flatMap_def, flatMap_slice, List.take_of_length_le enough]

/-- Of the pieces of a list without repetitions, exactly one holds an item of the list. -/
lemma flatMap_of_mem [DecidableEq α] {lists : List (List α)} (nodup : lists.flatten.Nodup) {x : α}
    (mem : x ∈ lists.flatten) (ys : List β) :
    (lists.flatMap fun list => if x ∈ list then ys else []) = ys := by
  induction lists with
  | nil => cases mem
  | cons list rest ih =>
    rw [List.flatten_cons] at nodup mem
    obtain ⟨-, nodup', apart⟩ := List.nodup_append'.1 nodup
    rw [List.flatMap_cons]
    by_cases here : x ∈ list
    case pos =>
      have absent : ∀ other ∈ rest, x ∉ other := fun other listed held =>
        apart here (List.mem_flatten.2 ⟨other, listed, held⟩)
      have others : (rest.flatMap fun list => if x ∈ list then ys else []) = [] := by
        refine List.flatMap_eq_nil_iff.2 fun other listed => ?_
        rw [if_neg (absent other listed)]
      rw [if_pos here, others, List.append_nil]
    case neg =>
      rw [if_neg here, List.nil_append, ih nodup' ((List.mem_append.1 mem).resolve_left here)]

/-- In a list without repeats there is nothing to erase. -/
lemma eraseDups_of_nodup [DecidableEq α] (nodup : items.Nodup) : items.eraseDups = items := by
  induction items with
  | nil => rfl
  | cons x rest ih =>
    obtain ⟨new, nodup⟩ := List.nodup_cons.1 nodup
    have kept : rest.filter (fun y => !y == x) = rest := by
      refine List.filter_eq_self.2 fun y mem => ?_
      have other : y ≠ x := fun e => new (e ▸ mem)
      simpa using other
    rw [List.eraseDups_cons, kept, ih nodup]

end Slice

/-! ## Giving authors to books -/

namespace Book

variable {books : List Book} {rows : List Authorship} {a : Authorship} {b : Book}

/-- A book with those authors of some rows that belong to it. -/
def credited (rows : List Authorship) (b : Book) : Book :=
  { b with authors := b.authors ++ (rows.filter (·.bookId = b.id)).map Authorship.author }

/-- An author does not change the ids of the books. -/
lemma credit_ids (books : List Book) (a : Authorship) :
    (credit books a).map (·.id) = books.map (·.id) := by
  induction books with
  | nil => rfl
  | cons b rest ih =>
    rw [credit]
    split
    case isTrue => rfl
    case isFalse => rw [List.map_cons, List.map_cons, ih]

/-- Nor do any number of authors. -/
lemma credits_ids (books : List Book) (rows : List Authorship) :
    (rows.foldl credit books).map (·.id) = books.map (·.id) := by
  induction rows generalizing books with
  | nil => rfl
  | cons a rest ih => rw [List.foldl_cons, ih, credit_ids]

/-- A book does not get the authors of another one. -/
lemma credited_of_ne (ne : b.id ≠ a.bookId) : credited [a] b = b := by
  simp [credited, Ne.symm ne]

/-- Where no book is listed twice, an author goes to every book with the id. -/
lemma credit_of_nodup (nodup : (books.map (·.id)).Nodup) (a : Authorship) :
    credit books a = books.map (credited [a]) := by
  induction books with
  | nil => rfl
  | cons b rest ih =>
    rw [List.map_cons, List.nodup_cons] at nodup
    rw [credit, List.map_cons]
    by_cases own : b.id = a.bookId
    case pos =>
      have other : ∀ b' ∈ rest, b'.id ≠ a.bookId := fun b' mem same =>
        nodup.1 (List.mem_map.2 ⟨b', mem, same.trans own.symm⟩)
      have last : rest.any (·.id = a.bookId) = false := by simpa using other
      have others : rest.map (credited [a]) = rest := by
        conv_rhs => rw [← List.map_id rest]
        exact List.map_congr_left fun b' mem => credited_of_ne (other b' mem)
      simp [own, last, others, credited]
    case neg => simp [own, ih nodup.2, credited_of_ne own]

/-- Where no book is listed twice, every book gets the authors of its own rows. -/
lemma credits_of_nodup (nodup : (books.map (·.id)).Nodup) (rows : List Authorship) :
    rows.foldl credit books = books.map (credited rows) := by
  induction rows generalizing books with
  | nil =>
    refine (List.map_id'' (fun b => ?_) books).symm
    simp [credited]
  | cons a rest ih =>
    have nodup' : ((credit books a).map (·.id)).Nodup := (credit_ids books a).symm ▸ nodup
    rw [List.foldl_cons, ih nodup', credit_of_nodup nodup, List.map_map]
    refine List.map_congr_left fun b _ => ?_
    by_cases own : a.bookId = b.id <;> simp [credited, own]

end Book

namespace Library

variable {lib : Library} {bookId : String} {a b c : Named}

/-! ## The order of authors -/

/-- Authors are ordered by name and then by number. -/
lemma authorLe_iff : authorLe a b = true ↔ a.name < b.name ∨ a.name = b.name ∧ a.id ≤ b.id := by
  simp [authorLe]

/-- The order of authors is transitive. -/
lemma authorLe_trans (a b c : Named) (ab : authorLe a b = true) (bc : authorLe b c = true) :
    authorLe a c = true := by
  rw [authorLe_iff] at ab bc ⊢
  rcases ab with lt | ⟨e, le⟩
  · rcases bc with lt' | ⟨e', _⟩
    · exact .inl (lt_trans lt lt')
    · exact .inl (e' ▸ lt)
  · rw [e]
    exact bc.imp_right fun ⟨e', le'⟩ => ⟨e', le_trans le le'⟩

/-- Of two authors one comes first. -/
lemma authorLe_total (a b : Named) : (authorLe a b || authorLe b a) = true := by
  rw [Bool.or_eq_true, authorLe_iff, authorLe_iff]
  rcases lt_trichotomy a.name b.name with lt | e | gt
  · exact .inl (.inl lt)
  · cases le_total a.id b.id with
    | inl le => exact .inl (.inr ⟨e, le⟩)
    | inr ge => exact .inr (.inr ⟨e.symm, ge⟩)
  · exact .inr (.inl gt)

/-- Authors that come before each other are the same. -/
lemma authorLe_antisymm (ab : authorLe a b = true) (ba : authorLe b a = true) : a = b := by
  rw [authorLe_iff] at ab ba
  rcases ab with lt | ⟨e, le⟩
  · rcases ba with gt | ⟨e, -⟩
    · exact absurd gt lt.asymm
    · exact absurd e lt.ne'
  · have ge : b.id ≤ a.id := (ba.resolve_left (e ▸ lt_irrefl _)).2
    cases a
    cases b
    cases e
    cases le_antisymm le ge
    rfl

/-! ## The authors of a book -/

/-- The authors of a book, by name and then by number. -/
def authorsOf (lib : Library) (bookId : String) : List Named :=
  let ids := (lib.links.filter (·.bookId = bookId)).map Link.authorId
  (lib.authors.rows.filter fun a => ids.contains a.id).mergeSort authorLe

/-- The authors of a book are those that it is linked to. -/
lemma mem_authorsOf {bookId : String} {a : Named} :
    a ∈ lib.authorsOf bookId ↔ a ∈ lib.authors.rows ∧ ⟨bookId, a.id⟩ ∈ lib.links := by
  rw [authorsOf, List.mem_mergeSort, List.mem_filter, List.contains_iff_mem, List.mem_map]
  refine and_congr_right fun _ => ⟨?_, fun mem => ⟨⟨bookId, a.id⟩, ?_, rfl⟩⟩
  · rintro ⟨⟨bookId', authorId⟩, mem, rfl⟩
    obtain ⟨mem, e⟩ := List.mem_filter.1 mem
    simp only [decide_eq_true_eq] at e
    exact e ▸ mem
  · simpa using mem

/-- No name is there twice among the authors of a book. -/
lemma authorsOf_nodup (sound : lib.authors.Sound) (bookId : String) :
    ((lib.authorsOf bookId).map Named.name).Nodup := by
  refine ((List.mergeSort_perm _ _).map Named.name).nodup_iff.2 ?_
  exact List.Sublist.nodup (List.filter_sublist.map _) sound.names_nodup

/-- The authors of a book are in order. -/
lemma authorsOf_ordered (lib : Library) (bookId : String) :
    (lib.authorsOf bookId).Pairwise (authorLe · ·) :=
  List.pairwise_mergeSort authorLe_trans authorLe_total _

/-- The names of the authors of a book stand in order, each once. -/
lemma authorsOf_sorted (sound : lib.authors.Sound) (bookId : String) :
    ((lib.authorsOf bookId).map Named.name).Pairwise (· < ·) := by
  have ordered := authorsOf_ordered lib bookId
  rw [List.pairwise_map]
  refine (ordered.and (List.pairwise_map.1 (authorsOf_nodup sound bookId))).imp fun ⟨le, ne⟩ => ?_
  exact (authorLe_iff.1 le).resolve_right fun same => ne same.1

/-! ## The authors of several books -/

/-- What the join of a link with the authors gives. -/
def authorship? (lib : Library) (l : Link) : Option Authorship :=
  (lib.authors.byId? l.authorId).map (⟨l.bookId, ·⟩)

/-- The rows of some books are the links of these books with their authors, in another order. -/
lemma authorships_perm (lib : Library) (bookIds : List String) :
    (lib.authorships bookIds).Perm
      ((lib.links.filter fun l => bookIds.contains l.bookId).filterMap lib.authorship?) :=
  List.mergeSort_perm _ _

/-- A link is joined with the author that has its number. -/
lemma authorship?_eq_some (sound : lib.authors.Sound) {l : Link} {row : Authorship} :
    lib.authorship? l = some row ↔
      row.author ∈ lib.authors.rows ∧ l = ⟨row.bookId, row.author.id⟩ := by
  rw [authorship?, Option.map_eq_some_iff]
  constructor
  · rintro ⟨a, found, rfl⟩
    have same : a.id = l.authorId := by simpa using List.find?_some found
    refine ⟨List.mem_of_find?_eq_some found, ?_⟩
    rw [same]
  · rintro ⟨mem, rfl⟩
    exact ⟨row.author, sound.byId?_of_mem mem, rfl⟩

/-- The rows of some books are those of their authors. -/
lemma mem_authorships (sound : lib.authors.Sound) {bookIds : List String} {row : Authorship} :
    row ∈ lib.authorships bookIds ↔
      row.bookId ∈ bookIds ∧ row.author ∈ lib.authors.rows ∧
        ⟨row.bookId, row.author.id⟩ ∈ lib.links := by
  rw [(lib.authorships_perm bookIds).mem_iff, List.mem_filterMap]
  simp only [List.mem_filter, List.contains_iff_mem, authorship?_eq_some sound]
  constructor
  · rintro ⟨l, ⟨linked, asked⟩, mem, rfl⟩
    exact ⟨asked, mem, linked⟩
  · rintro ⟨asked, mem, linked⟩
    exact ⟨_, ⟨linked, asked⟩, mem, rfl⟩

/-- No author of a book is there twice among the rows. -/
lemma authorships_nodup (sound : lib.authors.Sound) (linked : lib.links.Nodup)
    (bookIds : List String) : (lib.authorships bookIds).Nodup := by
  rw [(lib.authorships_perm bookIds).nodup_iff]
  refine (linked.filter _).filterMap fun l l' row own own' => ?_
  have here := ((authorship?_eq_some sound).1 own).2
  have there := ((authorship?_eq_some sound).1 own').2
  rw [here, there]

/-- The rows are in the order of the authors. -/
lemma authorships_ordered (lib : Library) (bookIds : List String) :
    (lib.authorships bookIds).Pairwise fun a b => authorLe a.author b.author = true := by
  rw [authorships]
  refine List.pairwise_mergeSort ?_ ?_ _
  · exact fun a b c => authorLe_trans a.author b.author c.author
  · exact fun a b => authorLe_total a.author b.author

/-- Rows of one book differ in their authors. -/
lemma nodup_authors_of_book {rows : List Authorship} (nodup : rows.Nodup) (bookId : String) :
    ((rows.filter (·.bookId = bookId)).map Authorship.author).Nodup := by
  refine (nodup.filter _).map_on ?_
  rintro ⟨id, a⟩ mem ⟨id', a'⟩ mem' same
  have own := (List.mem_filter.1 mem).2
  have own' := (List.mem_filter.1 mem').2
  simp only [decide_eq_true_eq] at own own' same
  rw [own, own', same]

/-- What is selected for a book is what is looked up for it on its own. -/
lemma authorships_of_mem (sound : lib.authors.Sound) (linked : lib.links.Nodup)
    {bookIds : List String} (asked : bookId ∈ bookIds) :
    ((lib.authorships bookIds).filter (·.bookId = bookId)).map Authorship.author =
      lib.authorsOf bookId := by
  -- both are in order, so that it is enough that they have the same authors
  have sorted : (((lib.authorships bookIds).filter (·.bookId = bookId)).map
      Authorship.author).Pairwise (authorLe · ·) :=
    List.pairwise_map.2 ((authorships_ordered lib bookIds).filter _)
  refine List.Perm.eq_of_pairwise (fun _ _ _ _ => authorLe_antisymm) sorted
    (authorsOf_ordered lib bookId) ?_
  have single := nodup_authors_of_book (authorships_nodup sound linked bookIds) bookId
  refine (List.perm_ext_iff_of_nodup single (authorsOf_nodup sound bookId).of_map).2 fun a => ?_
  rw [mem_authorsOf, List.mem_map]
  simp only [List.mem_filter, mem_authorships sound, decide_eq_true_eq]
  constructor
  · rintro ⟨row, ⟨⟨-, mem, link⟩, rfl⟩, rfl⟩
    exact ⟨mem, link⟩
  · rintro ⟨mem, link⟩
    exact ⟨⟨bookId, a⟩, ⟨⟨asked, mem, link⟩, rfl⟩, rfl⟩

/-- There are no rows of a book that is not asked for. -/
lemma authorships_of_not_mem (sound : lib.authors.Sound) {bookIds : List String}
    (unasked : bookId ∉ bookIds) : (lib.authorships bookIds).filter (·.bookId = bookId) = [] := by
  refine List.filter_eq_nil_iff.2 fun row mem own => unasked ?_
  simp only [decide_eq_true_eq] at own
  exact own ▸ ((mem_authorships sound).1 mem).1

/-! ## Books with their authors -/

/-- The authors are added row by row, from all pieces in turn. -/
lemma withAuthors_eq_foldl (lib : Library) (books : List Book) :
    lib.withAuthors books =
      ((pieces idsPerStatement (books.map (·.id)).eraseDups).flatMap lib.authorships).foldl
        Book.credit books := by
  rw [List.foldl_flatMap]
  rfl

/-- Books get their authors in the order in which they are listed. -/
lemma withAuthors_ids (books : List Book) :
    (lib.withAuthors books).map (·.id) = books.map (·.id) := by
  rw [withAuthors_eq_foldl, Book.credits_ids]

/-- Where no book is listed twice, every book gets its own authors, whatever is listed with it. -/
theorem withAuthors_eq (sound : lib.authors.Sound) (linked : lib.links.Nodup) {books : List Book}
    (nodup : (books.map (·.id)).Nodup) (bare : ∀ b ∈ books, b.authors = []) :
    lib.withAuthors books = books.map fun b => { b with authors := lib.authorsOf b.id } := by
  rw [withAuthors_eq_foldl, Book.credits_of_nodup nodup, eraseDups_of_nodup nodup]
  refine List.map_congr_left fun b mem => ?_
  have whole := pieces_flatten (by decide : 0 < idsPerStatement) (books.map (·.id))
  have own : b.id ∈ (pieces idsPerStatement (books.map (·.id))).flatten :=
    whole.symm ▸ List.mem_map_of_mem mem
  -- the rows for this book come from the one statement that asks for it
  have rows : ∀ bookIds : List String,
      ((lib.authorships bookIds).filter (·.bookId = b.id)).map Authorship.author =
        if b.id ∈ bookIds then lib.authorsOf b.id else [] := by
    intro bookIds
    split
    case isTrue asked => exact authorships_of_mem sound linked asked
    case isFalse unasked => rw [authorships_of_not_mem sound unasked, List.map_nil]
  rw [Book.credited, bare b mem, List.nil_append, List.filter_flatMap, List.map_flatMap]
  simp only [rows]
  rw [flatMap_of_mem (whole.symm ▸ nodup) own]

end Library

end BookCatalog
