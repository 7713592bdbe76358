import BookCatalog.Proofs.Library.Batches

/-!
# Which names there are

A batch adds to each table of names what its submissions mention, and nothing else
(`Library.nameSet_storedAll`). So the order in which they are stored decides about the numbers of
the names, but not about which names there are.
-/

namespace BookCatalog

/-- A submission mentions a name; an empty name is none. -/
def Submission.Mentions (s : Submission) : Kind → String → Prop
  | .authors, name => s.HasAuthor name
  | .series, name => name ≠ "" ∧ s.series = some name
  | .genres, name => name ≠ "" ∧ s.genre = some name

namespace Library

variable {lib : Library} {kind : Kind} {name : String}

/-- The names of one kind, whatever their numbers are. -/
def nameSet (lib : Library) (kind : Kind) : Set String :=
  {name | ∃ r ∈ (lib.names kind).rows, r.name = name}

/-- The names of a kind depend on its table alone. -/
lemma nameSet_congr {after : Library} (same : after.names kind = lib.names kind) :
    after.nameSet kind = lib.nameSet kind := by
  rw [nameSet, nameSet, same]

/-- A new name joins the names of its kind. -/
lemma mem_nameSet_withName (lib : Library) (kind' : Kind) (new : String) :
    name ∈ (lib.withName kind' new).nameSet kind ↔
      name ∈ lib.nameSet kind ∨ kind = kind' ∧ name = new := by
  rw [withName]
  split
  case isTrue known =>
    obtain ⟨id, found⟩ := Option.isSome_iff_exists.1 known
    refine ⟨Or.inl, ?_⟩
    rintro (old | ⟨rfl, rfl⟩)
    · exact old
    · exact ⟨_, Dimension.mem_of_idOf? found, rfl⟩
  case isFalse =>
    rw [nameSet, names_withNames]
    split
    case isTrue same =>
      subst same
      simp [nameSet, Dimension.add, or_and_right, exists_or, eq_comm]
    case isFalse other => simp [nameSet, other]

/-- So does a name that is neither missing nor empty. -/
lemma mem_nameSet_withName? (lib : Library) (kind' : Kind) (new : Option String) :
    name ∈ (lib.withName? kind' new).nameSet kind ↔
      name ∈ lib.nameSet kind ∨ kind = kind' ∧ name ≠ "" ∧ new = some name := by
  unfold withName?
  split
  case h_1 => simp
  case h_2 =>
    refine (or_iff_left ?_).symm
    rintro ⟨-, ne, empty⟩
    cases empty
    exact ne rfl
  case h_3 new ne =>
    rw [mem_nameSet_withName]
    have given : name = new → name ≠ "" := by
      rintro rfl rfl
      exact ne rfl
    simp only [Option.some.injEq, eq_comm (a := new)]
    tauto

/-- A named author joins the names of the authors. -/
lemma mem_nameSet_withAuthor (bookId : String) (lib : Library) (new : Option String) :
    name ∈ (withAuthor bookId lib new).nameSet kind ↔
      name ∈ lib.nameSet kind ∨ kind = .authors ∧ name ≠ "" ∧ new = some name := by
  rw [← mem_nameSet_withName?]
  simp only [withAuthor]
  split
  case h_1 => rw [nameSet_congr (withLink_names _ _ kind)]
  case h_2 => rfl

/-- So do all named authors of a book. -/
lemma mem_nameSet_withAuthors (bookId : String) (lib : Library) (names : List (Option String)) :
    name ∈ (names.foldl (withAuthor bookId) lib).nameSet kind ↔
      name ∈ lib.nameSet kind ∨ kind = .authors ∧ name ≠ "" ∧ some name ∈ names := by
  induction names generalizing lib with
  | nil => simp
  | cons new rest ih =>
    rw [List.foldl_cons, ih, mem_nameSet_withAuthor, List.mem_cons, eq_comm (a := new)]
    tauto

/-- A stored submission adds the names that it mentions and no others. -/
lemma mem_nameSet_stored {s : Submission} (storable : s.Storable) (lib : Library) (now : String) :
    name ∈ (lib.stored now s).nameSet kind ↔ name ∈ lib.nameSet kind ∨ s.Mentions kind name := by
  obtain ⟨title, titled⟩ := storable.title
  have named : name ∈ (lib.withSeriesAndGenre s).nameSet kind ↔ name ∈ lib.nameSet kind ∨
      kind = .series ∧ name ≠ "" ∧ s.series = some name ∨
      kind = .genres ∧ name ≠ "" ∧ s.genre = some name := by
    rw [withSeriesAndGenre, mem_nameSet_withName?, mem_nameSet_withName?, or_assoc]
  simp only [stored, rowOf?, Submission.stored?, titled, Option.map_some,
    Option.elim_some, storedAs]
  rw [nameSet_congr (names_withIndexed _ _ kind), mem_nameSet_withAuthors,
    nameSet_congr ((names_withoutLinks _ _ kind).trans (putBook_names _ _ kind)), named]
  cases kind <;> simp [Submission.Mentions, Submission.HasAuthor]

/-- Storing a batch adds the names that its submissions mention. -/
theorem nameSet_storedAll {batch : List Submission} (storable : ∀ s ∈ batch, s.Storable)
    (lib : Library) (now : String) (kind : Kind) :
    (lib.storedAll now batch).nameSet kind =
      lib.nameSet kind ∪ {name | ∃ s ∈ batch, s.Mentions kind name} := by
  induction batch generalizing lib with
  | nil => simp [storedAll]
  | cons s rest ih =>
    obtain ⟨first, rest'⟩ := List.forall_mem_cons.1 storable
    have all := ih rest' (lib.stored now s)
    rw [storedAll, List.foldl_cons, ← storedAll, all]
    ext name
    simp only [Set.mem_union, Set.mem_ofPred_eq, mem_nameSet_stored first,
      List.exists_mem_cons_iff, or_assoc]

end Library

end BookCatalog
