import BookCatalog.Proofs.Library.Batches
import BookCatalog.Proofs.Library.Clearing

/-!
# Likeness of libraries

Two things in a library tell about its past: the times of its books, and the numbers of its names,
which depend on how many names there have been before. The central notions:

* `Library.likeness`: a library without the times, and with the numbers of each kind moved by a
  constant.
* `Library.Agrees`: two libraries have the same rows but for these two things.
* `Library.likeness_storedAll`: storing a batch does not look at either, so libraries that agree go
  on agreeing (`Library.Agrees.storedAll`).
-/

namespace BookCatalog

/-- How far the numbers of names are moved, for each kind. -/
abbrev Shift := Kind → Int

variable {shift : Shift} {n : Int}

def Named.moved (n : Int) (r : Named) : Named :=
  { r with id := r.id + n }

def Link.moved (n : Int) (l : Link) : Link :=
  { l with authorId := l.authorId + n }

/-- A table of names with all numbers moved, also those that it will give out. -/
def Dimension.moved (n : Int) (d : Dimension) : Dimension :=
  { rows := d.rows.map (Named.moved n), lastId := d.lastId + n }

/-- The row of a book without its times. -/
def StoredBook.untimed (b : StoredBook) : StoredBook :=
  { b with createdAt := "", updatedAt := "" }

/-- The row of a book with its numbers moved, and without its times. -/
def StoredBook.likeness (shift : Shift) (b : StoredBook) : StoredBook :=
  { b.untimed with
    seriesId := b.seriesId.map (· + shift .series)
    genreId := b.genreId.map (· + shift .genres) }

namespace Library

/-- A new library with the rows of another one, their numbers moved and without the times. -/
def likeness (shift : Shift) (lib : Library) : Library :=
  { objects := schemaScript.map SchemaStep.object
    versions := [schemaVersion]
    authors := lib.authors.moved (shift .authors)
    series := lib.series.moved (shift .series)
    genres := lib.genres.moved (shift .genres)
    books := lib.books.map (StoredBook.likeness shift)
    links := lib.links.map (Link.moved (shift .authors))
    index := lib.index }

/-- Two libraries have the same rows, but for the times of the books and for the numbers of the
names, which lie further in the second one by a constant for each kind. -/
structure Agrees (shift : Shift) (lib lib' : Library) : Prop where
  names : ∀ kind, lib'.names kind = (lib.names kind).moved (shift kind)
  books : lib'.books.map (StoredBook.likeness 0) = lib.books.map (StoredBook.likeness shift)
  links : lib'.links = lib.links.map (Link.moved (shift .authors))
  index : lib'.index = lib.index

/-- Two libraries have the same rows, with the same numbers and the same next numbers, but for the
times of the books. -/
structure SameRows (lib lib' : Library) : Prop where
  names : ∀ kind, lib'.names kind = lib.names kind
  books : lib'.books.map StoredBook.untimed = lib.books.map StoredBook.untimed
  links : lib'.links = lib.links
  index : lib'.index = lib.index

end Library

/-! ## Names -/

namespace Dimension

variable {d : Dimension} {name : String}

/-- Moving numbers by zero changes nothing. -/
lemma moved_zero (d : Dimension) : d.moved 0 = d := by
  have same : Named.moved 0 = id := by
    funext r
    simp [Named.moved]
  simp [moved, same]

/-- A name is added before or after the numbers are moved. -/
lemma moved_add (n : Int) (d : Dimension) (name : String) :
    (d.add name).moved n = (d.moved n).add name := by
  have next : d.lastId + 1 + n = d.lastId + n + 1 := by omega
  simp [add, moved, Named.moved, next]

/-- The number of a name is moved with the others. -/
lemma idOf?_moved (n : Int) (d : Dimension) (name : String) :
    (d.moved n).idOf? name = (d.idOf? name).map (· + n) := by
  rw [idOf?, moved, List.find?_map, Option.map_map, idOf?, Option.map_map]
  rfl

end Dimension

namespace Library

variable {lib lib' : Library} {kind : Kind} {bookId now : String} {s : Submission}

/-- The numbers of every kind are moved by the constant of the kind. -/
@[simp] lemma names_likeness (shift : Shift) (lib : Library) (kind : Kind) :
    (lib.likeness shift).names kind = (lib.names kind).moved (shift kind) := by
  cases kind <;> rfl

/-- The names of a kind are replaced before or after the numbers are moved. -/
lemma likeness_withNames (shift : Shift) (lib : Library) (kind : Kind) (d : Dimension) :
    (lib.withNames kind d).likeness shift =
      (lib.likeness shift).withNames kind (d.moved (shift kind)) := by
  cases kind <;> rfl

/-- A name is put into its table before or after the numbers are moved. -/
lemma likeness_withName (shift : Shift) (lib : Library) (kind : Kind) (name : String) :
    (lib.withName kind name).likeness shift = (lib.likeness shift).withName kind name := by
  rw [withName, withName, names_likeness, Dimension.idOf?_moved, Option.isSome_map]
  split
  case isTrue => rfl
  case isFalse => rw [likeness_withNames, Dimension.moved_add]

/-- The same for a name that may be missing or empty. -/
lemma likeness_withName? (shift : Shift) (lib : Library) (kind : Kind) (name : Option String) :
    (lib.withName? kind name).likeness shift = (lib.likeness shift).withName? kind name := by
  unfold withName?
  split
  case h_1 => rfl
  case h_2 => rfl
  case h_3 => exact likeness_withName shift lib kind _

/-- The number that stands for a name is moved with the others. -/
lemma idOf?_likeness (shift : Shift) (lib : Library) (kind : Kind) (name : Option String) :
    (lib.likeness shift).idOf? kind name = (lib.idOf? kind name).map (· + shift kind) := by
  unfold idOf?
  split
  case h_1 => rfl
  case h_2 => rfl
  case h_3 => rw [names_likeness, Dimension.idOf?_moved]

/-! ## Books and authors -/

/-- Books are told apart by their ids, which are not moved. -/
lemma filter_map_likeness (shift : Shift) (books : List StoredBook) (id : String) :
    (books.map (StoredBook.likeness shift)).filter (·.id ≠ id) =
      (books.filter (·.id ≠ id)).map (StoredBook.likeness shift) := by
  rw [List.filter_map]
  rfl

/-- Links are told apart by their books, which are not moved. -/
lemma filter_map_moved (n : Int) (links : List Link) (id : String) :
    (links.map (Link.moved n)).filter (·.bookId ≠ id) =
      (links.filter (·.bookId ≠ id)).map (Link.moved n) := by
  rw [List.filter_map]
  rfl

/-- A book is put there before or after the numbers are moved. -/
lemma likeness_putBook (shift : Shift) (lib : Library) (b : StoredBook) :
    (lib.putBook b).likeness shift = (lib.likeness shift).putBook (b.likeness shift) := by
  have listed : (lib.likeness shift).books.any (·.id = (b.likeness shift).id) =
      lib.books.any (·.id = b.id) := by
    rw [likeness, List.any_map]
    rfl
  rw [putBook, putBook, listed]
  have books := filter_map_likeness shift lib.books b.id
  have links := filter_map_moved (shift .authors) lib.links b.id
  split
  case isTrue =>
    simp only [likeness, List.map_append, ← books, ← links]
    rfl
  case isFalse =>
    simp only [likeness, List.map_append]
    rfl

/-- The authors of a book are deleted before or after the numbers are moved. -/
lemma likeness_withoutLinks (shift : Shift) (lib : Library) (bookId : String) :
    (lib.withoutLinks bookId).likeness shift = (lib.likeness shift).withoutLinks bookId := by
  have links := filter_map_moved (shift .authors) lib.links bookId
  simp only [likeness, withoutLinks, ← links]

/-- Links with different numbers are moved to links with different numbers. -/
lemma moved_injective (n : Int) : Function.Injective (Link.moved n) := by
  intro l l' same
  cases l
  cases l'
  simpa [Link.moved] using same

/-- An author of a book is added before or after the numbers are moved. -/
lemma likeness_withLink (shift : Shift) (lib : Library) (l : Link) :
    (lib.withLink l).likeness shift =
      (lib.likeness shift).withLink (l.moved (shift .authors)) := by
  have listed : (lib.likeness shift).links.contains (l.moved (shift .authors)) =
      lib.links.contains l := by
    rw [Bool.eq_iff_iff, List.contains_iff_mem, List.contains_iff_mem]
    exact List.mem_map_of_injective (moved_injective _)
  rw [withLink, withLink, listed]
  split
  case isTrue => rfl
  case isFalse =>
    simp only [likeness, List.map_append]
    rfl

/-- The same for an author by name. -/
lemma likeness_withAuthor (shift : Shift) (bookId : String) (lib : Library)
    (name : Option String) :
    (withAuthor bookId lib name).likeness shift =
      withAuthor bookId (lib.likeness shift) name := by
  have named := likeness_withName? shift lib .authors name
  have number := idOf?_likeness shift (lib.withName? .authors name) .authors name
  rw [named] at number
  simp only [withAuthor, number]
  cases (lib.withName? .authors name).idOf? .authors name with
  | none => exact named
  | some id =>
    simp only [Option.map_some]
    rw [likeness_withLink, named]
    rfl

/-- The same for all authors of a book. -/
lemma likeness_withAuthors (shift : Shift) (bookId : String) (lib : Library)
    (names : List (Option String)) :
    (names.foldl (withAuthor bookId) lib).likeness shift =
      names.foldl (withAuthor bookId) (lib.likeness shift) := by
  induction names generalizing lib with
  | nil => rfl
  | cons name rest ih => rw [List.foldl_cons, List.foldl_cons, ih, likeness_withAuthor]

/-! ## Storing -/

/-- A row is stored with its authors and texts before or after the numbers are moved. -/
lemma likeness_storedAs (shift : Shift) (lib : Library) (s : Submission) (b : StoredBook) :
    (lib.storedAs s b).likeness shift = (lib.likeness shift).storedAs s (b.likeness shift) := by
  have linked := likeness_withAuthors shift s.id ((lib.putBook b).withoutLinks s.id)
    (s.authors.getD [])
  rw [likeness_withoutLinks, likeness_putBook] at linked
  rw [storedAs, storedAs, ← linked]
  rfl

/-- The row of a submission is moved with the names that it refers to. -/
lemma rowOf?_likeness (shift : Shift) (lib : Library) (now : String) (s : Submission) :
    (lib.likeness shift).rowOf? "" s = (lib.rowOf? now s).map (StoredBook.likeness shift) := by
  rw [rowOf?, rowOf?, idOf?_likeness, idOf?_likeness, Submission.stored?, Submission.stored?,
    Option.map_map]
  rfl

/-- Storing a submission looks neither at the time nor at where the numbers begin. -/
theorem likeness_stored (shift : Shift) (lib : Library) (now : String) (s : Submission) :
    (lib.stored now s).likeness shift = (lib.likeness shift).stored "" s := by
  have named : (lib.withSeriesAndGenre s).likeness shift =
      (lib.likeness shift).withSeriesAndGenre s := by
    rw [withSeriesAndGenre, withSeriesAndGenre, likeness_withName?, likeness_withName?]
  have row := rowOf?_likeness shift (lib.withSeriesAndGenre s) now s
  simp only [stored, ← named, row]
  cases (lib.withSeriesAndGenre s).rowOf? now s with
  | none => rfl
  | some b => exact likeness_storedAs shift _ s b

/-- A batch is stored before or after the numbers are moved and the times are left out. -/
theorem likeness_storedAll (shift : Shift) (lib : Library) (now : String)
    (batch : List Submission) :
    (lib.storedAll now batch).likeness shift = (lib.likeness shift).storedAll "" batch := by
  induction batch generalizing lib with
  | nil => rfl
  | cons s rest ih =>
    have first := likeness_stored shift lib now s
    have rest := ih (lib.stored now s)
    rw [first] at rest
    exact rest

/-- A batch may be stored in two parts. -/
lemma storedAll_append (lib : Library) (now : String) (first second : List Submission) :
    lib.storedAll now (first ++ second) = (lib.storedAll now first).storedAll now second := by
  rw [storedAll, List.foldl_append]
  rfl

/-! ## Agreement -/

/-- Moving a link by zero changes nothing. -/
lemma link_moved_zero : Link.moved 0 = id := by
  funext l
  simp [Link.moved]

/-- Moving a row by zero leaves out its times and nothing else. -/
lemma book_likeness_zero : StoredBook.likeness 0 = StoredBook.untimed := by
  funext b
  simp [StoredBook.likeness, StoredBook.untimed]

/-- Libraries agree exactly if their likenesses are equal. -/
lemma agrees_iff : lib.Agrees shift lib' ↔ lib'.likeness 0 = lib.likeness shift := by
  constructor
  · intro agrees
    have authors : lib'.authors = lib.authors.moved (shift .authors) := agrees.names .authors
    have series : lib'.series = lib.series.moved (shift .series) := agrees.names .series
    have genres : lib'.genres = lib.genres.moved (shift .genres) := agrees.names .genres
    simp only [likeness, Pi.zero_apply, Dimension.moved_zero, link_moved_zero, List.map_id,
      agrees.books, agrees.links, agrees.index, authors, series, genres]
  · intro same
    refine
      { names := fun kind => ?_
        books := congrArg books same
        links := ?_
        index := ?_ }
    · have names := congrArg (Library.names · kind) same
      simpa [Dimension.moved_zero] using names
    · have links := congrArg links same
      simpa [likeness, link_moved_zero] using links
    · have index := congrArg Library.index same
      exact index

/-- Libraries that agree without moving any number have the same rows. -/
lemma agrees_zero (agrees : lib.Agrees 0 lib') : lib.SameRows lib' := by
  obtain ⟨names, books, links, index⟩ := agrees
  rw [book_likeness_zero] at books
  refine { names := fun kind => ?_, books := books, links := ?_, index := index }
  · rw [names kind, Pi.zero_apply, Dimension.moved_zero]
  · rw [links, Pi.zero_apply, link_moved_zero, List.map_id]

/-- Emptied libraries agree, and their numbers lie apart by what they have given out. -/
lemma agrees_emptied (lib lib' : Library) :
    lib.emptied.Agrees (fun kind => (lib'.names kind).lastId - (lib.names kind).lastId)
      lib'.emptied := by
  refine { names := fun kind => ?_, books := rfl, links := rfl, index := rfl }
  cases kind <;> simp [names, emptied, Dimension.clear, Dimension.moved]

/-- Libraries that agree go on agreeing when the same batch is stored in both, whenever that is. -/
theorem Agrees.storedAll (agrees : lib.Agrees shift lib') (now now' : String)
    (batch : List Submission) :
    (lib.storedAll now batch).Agrees shift (lib'.storedAll now' batch) := by
  rw [agrees_iff, likeness_storedAll, likeness_storedAll, agrees_iff.1 agrees]

end Library

end BookCatalog
