import BookCatalog.Proofs.Search.Results

/-!
# The listed names

The names of a kind are listed in alphabetical order, all of them and each once
(`Library.alphabetical_perm`, `Library.alphabetical_sorted`). Names that differ only in the case of
ASCII letters stand in the order of their numbers. Every name that a shown book carries is among
those of its kind, whatever has become of the other tables (`Library.search_carried`,
`Library.getBook_carried`).
-/

namespace BookCatalog

/-- A name comes before another one in a listing. -/
def Named.Precedes (a b : Named) : Prop :=
  asciiLowercase a.name < asciiLowercase b.name ∨
    asciiLowercase a.name = asciiLowercase b.name ∧ a.id < b.id

/-- The names of a kind that a book carries. -/
def Book.carried (b : Book) : Kind → List Named
  | .authors => b.authors
  | .series => b.series.toList
  | .genres => b.genre.toList

namespace Library

variable {lib : Library} {d : Dimension} {a : Authorship} {b : Book} {books : List Book}
  {f : Filter} {page : Page Book} {kind : Kind} {r : Named} {id : String}

/-! ## The order of a listing -/

/-- All names of a table are listed, each as often as it is there. -/
lemma alphabetical_perm (d : Dimension) : (alphabetical d).Perm d.rows := by
  have sorted := (List.mergeSort_perm (d.rows.map fun r => (asciiLowercase r.name, r))
    fun a b => a.1 < b.1 || (a.1 == b.1 && a.2.id ≤ b.2.id)).map Prod.snd
  have rows : (d.rows.map fun r => (asciiLowercase r.name, r)).map Prod.snd = d.rows := by
    rw [List.map_map]
    exact List.map_id _
  rwa [rows] at sorted

/-- Where numbers stand once, names stand in order. -/
lemma alphabetical_sorted (sound : d.Sound) : (alphabetical d).Pairwise Named.Precedes := by
  have ids : ((alphabetical d).map Named.id).Nodup :=
    ((alphabetical_perm d).map Named.id).nodup_iff.2 sound.ids_nodup
  -- the rows are ordered as authors are whose names are the keys
  have ordered : (alphabetical d).Pairwise fun a b =>
    asciiLowercase a.name < asciiLowercase b.name ∨
      asciiLowercase a.name = asciiLowercase b.name ∧ a.id ≤ b.id := by
    rw [alphabetical, List.pairwise_map]
    refine (List.pairwise_mergeSort ?_ ?_ _).imp_of_mem fun {a b} mem mem' le => ?_
    · exact fun a b c => authorLe_trans ⟨a.2.id, a.1⟩ ⟨b.2.id, b.1⟩ ⟨c.2.id, c.1⟩
    · exact fun a b => authorLe_total ⟨a.2.id, a.1⟩ ⟨b.2.id, b.1⟩
    · obtain ⟨r, -, rfl⟩ := List.mem_map.1 (List.mem_mergeSort.1 mem)
      obtain ⟨r', -, rfl⟩ := List.mem_map.1 (List.mem_mergeSort.1 mem')
      exact (authorLe_iff (a := ⟨r.id, _⟩) (b := ⟨r'.id, _⟩)).1 le
  refine (ordered.and (List.pairwise_map.1 ids)).imp fun ⟨le, ne⟩ => ?_
  exact le.imp_right fun ⟨same, le⟩ => ⟨same, lt_of_le_of_ne le ne⟩

/-! ## Names that books carry -/

/-- The names that a book carries stand in their tables. -/
def Carries (lib : Library) (b : Book) : Prop :=
  ∀ kind, b.carried kind ⊆ (lib.names kind).rows

/-- The name that a number refers to is in the table, with this number. -/
lemma mem_of_nameOf? {number : Option Int} {name : Named} (found : nameOf? d number = some name) :
    number = some name.id ∧ name ∈ d.rows := by
  obtain ⟨n, rfl, found⟩ := Option.bind_eq_some_iff.1 found
  have same : name.id = n := by simpa using List.find?_some found
  exact ⟨congrArg _ same.symm, List.mem_of_find?_eq_some found⟩

/-- A number is shown with the name of its row. -/
lemma mem_of_resolved {number : Option Int}
    (shown : resolved number ((nameOf? d number).map Named.name) = some r) : r ∈ d.rows := by
  cases found : nameOf? d number with
  | none => simp [found, resolved] at shown
  | some name =>
    obtain ⟨rfl, mem⟩ := mem_of_nameOf? found
    simp only [found, resolved, Option.map_some, Option.some.injEq] at shown
    exact shown ▸ mem

/-- A book whose series and genre have been looked up carries no other names. -/
lemma carries_bookOf (b : StoredBook) : lib.Carries (lib.bookOf b) := by
  intro kind r mem
  cases kind with
  | authors => cases mem
  | series => exact mem_of_resolved (Option.mem_toList.1 mem)
  | genres => exact mem_of_resolved (Option.mem_toList.1 mem)

/-- An author from the table may be added to any book. -/
lemma Carries.credit (author : a.author ∈ lib.authors.rows) (all : ∀ b ∈ books, lib.Carries b) :
    ∀ b ∈ Book.credit books a, lib.Carries b := by
  induction books with
  | nil => exact all
  | cons b rest ih =>
    obtain ⟨own, others⟩ := List.forall_mem_cons.1 all
    rw [Book.credit]
    split
    · refine List.forall_mem_cons.2 ⟨fun kind => ?_, others⟩
      cases kind with
      | authors =>
        exact List.append_subset.2 ⟨own .authors, List.cons_subset.2 ⟨author, List.nil_subset _⟩⟩
      | series => exact own .series
      | genres => exact own .genres
    · exact List.forall_mem_cons.2 ⟨own, ih others⟩

/-- Who wrote a book is in the table of authors. -/
lemma author_of_mem_authorships {ids : List String} (mem : a ∈ lib.authorships ids) :
    a.author ∈ lib.authors.rows := by
  obtain ⟨l, -, joined⟩ := List.mem_filterMap.1 ((lib.authorships_perm ids).mem_iff.1 mem)
  obtain ⟨author, found, rfl⟩ := Option.map_eq_some_iff.1 joined
  exact List.mem_of_find?_eq_some found

/-- The authors that books are given are those of the table. -/
lemma Carries.withAuthors (all : ∀ b ∈ books, lib.Carries b) :
    ∀ b ∈ lib.withAuthors books, lib.Carries b := by
  have given : ∀ rows : List Authorship, (∀ a ∈ rows, a.author ∈ lib.authors.rows) →
      ∀ books : List Book, (∀ b ∈ books, lib.Carries b) → ∀ b ∈ rows.foldl Book.credit books,
        lib.Carries b := by
    intro rows
    induction rows with
    | nil => exact fun _ _ all => all
    | cons a rows ih =>
      intro authors books all
      obtain ⟨own, others⟩ := List.forall_mem_cons.1 authors
      exact ih others _ (Carries.credit own all)
  rw [withAuthors_eq_foldl]
  refine given _ (fun a mem => ?_) books all
  obtain ⟨ids, -, mem⟩ := List.mem_flatMap.1 mem
  exact author_of_mem_authorships mem

/-- The books of a page carry names from the tables. -/
lemma search_carried (ok : lib.search f = .ok page) : ∀ b ∈ page.items, lib.Carries b := by
  obtain ⟨-, -, items⟩ := search_eq_ok ok
  rw [items]
  refine Carries.withAuthors (List.forall_mem_map.2 fun j mem => ?_)
  obtain ⟨stored, -, matched⟩ := List.mem_flatMap.1
    ((found_perm f.plan).mem_iff.1 ((slice_sublist _ _).subset mem))
  obtain ⟨rfl, series, genre⟩ := book_of_mem_joined (mem_joined_of_mem_matching matched).1
  rw [series, genre]
  exact carries_bookOf j.book

/-- A book that is looked up carries names from the tables. -/
lemma getBook_carried (ok : lib.getBook id = .ok (some b)) : lib.Carries b := by
  rw [getBook, during_eq_ok] at ok
  obtain ⟨_, -, ok⟩ := bind_eq_ok.1 ok
  split at ok
  · cases ok
  · next stored _ =>
    obtain ⟨shown, hydrated, ok⟩ := bind_eq_ok.1 ok
    have first : b ∈ lib.withAuthors [lib.bookOf stored] := by
      rw [← hydrate_eq_ok hydrated]
      exact List.mem_of_head? (Except.ok.inj ok)
    exact Carries.withAuthors (List.forall_mem_singleton.2 (carries_bookOf stored)) b first

end Library

end BookCatalog
