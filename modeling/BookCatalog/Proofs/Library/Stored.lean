import BookCatalog.Proofs.Library.Storing

/-!
# The tables after storing a book

`Library.Gains` says what is in each table after a submission was stored: the names have only grown,
the book has one row and one index row, the last ones of their tables, its authors are those of the
submission, and everything that belongs to other books is as it was. `Library.stored_gains` shows it
of `Library.stored`.
-/

namespace BookCatalog

/-- A submission names an author; an author without a name is none. -/
def Submission.HasAuthor (s : Submission) (name : String) : Prop :=
  name ≠ "" ∧ some name ∈ s.authors.getD []

namespace Library

variable {lib lib' lib'' : Library} {now bookId : String} {s : Submission} {kind : Kind}

/-- All tables of names are sound. -/
def NamesSound (lib : Library) : Prop :=
  ∀ kind, (lib.names kind).Sound

/-- All names of a library are in a later one, with their numbers. -/
def NamesExtend (lib lib' : Library) : Prop :=
  ∀ kind, (lib.names kind).Extends (lib'.names kind)

/-- Only new names were added to a library. -/
def NamesGrow (lib lib' : Library) : Prop :=
  ∀ kind, (lib.names kind).Grows (lib'.names kind)

/-- Names have grown if nothing has changed. -/
lemma NamesGrow.refl (lib : Library) : lib.NamesGrow lib :=
  fun _ => .refl

/-- Names that have grown may grow further. -/
lemma NamesGrow.trans (h : lib.NamesGrow lib') (h' : lib'.NamesGrow lib'') : lib.NamesGrow lib'' :=
  fun kind => (h kind).trans (h' kind)

/-- Names that have grown are all still there. -/
lemma NamesGrow.extends (h : lib.NamesGrow lib') : lib.NamesExtend lib' :=
  fun kind => (h kind).extends

/-- Sound tables of names stay sound when names are added. -/
lemma NamesGrow.sound (h : lib.NamesGrow lib') (sound : lib.NamesSound) : lib'.NamesSound :=
  fun kind => (h kind).sound (sound kind)

/-- A later state of a library, with a submission stored and nothing else changed. -/
structure Gains (lib : Library) (s : Submission) (after : Library) : Prop where
  objects : after.objects = lib.objects
  grows : lib.NamesGrow after
  sound : after.NamesSound
  book : ∃ seriesId genreId now b, s.stored? seriesId genreId now = some b ∧
    after.series.Refers seriesId s.series ∧ after.genres.Refers genreId s.genre ∧
    after.books = lib.books.filter (·.id ≠ s.id) ++ [b]
  links : ∀ l, l ∈ after.links ↔
    l ∈ lib.links ∧ l.bookId ≠ s.id ∨
      l.bookId = s.id ∧ ∃ n, s.HasAuthor n ∧ ⟨l.authorId, n⟩ ∈ after.authors.rows
  links_nodup : lib.links.Nodup → after.links.Nodup
  authors : ∀ n, s.HasAuthor n → ∃ id, ⟨id, n⟩ ∈ after.authors.rows
  index : after.index = lib.index.filter (·.bookId ≠ s.id) ++ [⟨s.id, s.texts⟩]

/-! ## Names -/

/-- Storing a submission takes no name away. -/
lemma Gains.extends_names {after : Library} (gains : lib.Gains s after) : lib.NamesExtend after :=
  gains.grows.extends

/-- A name that is put into its table only adds to the names. -/
lemma namesGrow_withName (lib : Library) (kind : Kind) (name : String) :
    lib.NamesGrow (lib.withName kind name) := by
  intro kind'
  rw [withName]
  split
  case isTrue => exact .refl
  case isFalse h =>
    have new : (lib.names kind).idOf? name = none := by simpa using h
    rw [names_withNames]
    split
    case isTrue e =>
      subst e
      exact Dimension.Grows.refl.add new
    case isFalse => exact .refl

/-- So does one that may be missing or empty. -/
lemma namesGrow_withName? (lib : Library) (kind : Kind) (name : Option String) :
    lib.NamesGrow (lib.withName? kind name) := by
  unfold withName?
  split
  case h_1 => exact .refl _
  case h_2 => exact .refl _
  case h_3 => exact namesGrow_withName _ _ _

/-- The number of a name that was added refers to it. -/
lemma refers_withName? (lib : Library) (kind : Kind) (name : Option String) :
    ((lib.withName? kind name).names kind).Refers ((lib.withName? kind name).idOf? kind name)
      name := by
  cases name with
  | none => exact .missing
  | some name =>
    by_cases ne : name = ""
    · subst ne
      exact .empty
    · rw [withName?_some ne, idOf?_some ne]
      obtain ⟨id, found⟩ := Option.isSome_iff_exists.1 (isSome_idOf?_withName lib kind name)
      rw [found]
      exact .named ne (Dimension.mem_of_idOf? found)

/-- An author of a book is not a new name. -/
@[simp] lemma withLink_authors (lib : Library) (l : Link) :
    (lib.withLink l).authors = lib.authors :=
  withLink_names lib l .authors

/-! ## Authors -/

/-- A named author of a book only adds to the names. -/
lemma namesGrow_withAuthor (bookId : String) (lib : Library) (name : Option String) :
    lib.NamesGrow (withAuthor bookId lib name) := by
  intro kind
  simp only [withAuthor]
  split
  case h_1 =>
    rw [withLink_names]
    exact namesGrow_withName? _ _ _ kind
  case h_2 => exact namesGrow_withName? _ _ _ kind

/-- A link that is added is there, with those that were there before. -/
lemma mem_links_withLink {l l' : Link} :
    l' ∈ (lib.withLink l).links ↔ l' ∈ lib.links ∨ l' = l := by
  rw [withLink]
  split
  case isTrue h =>
    have there : l ∈ lib.links := by simpa using h
    exact ⟨Or.inl, fun mem => mem.elim id fun e => e ▸ there⟩
  case isFalse => simp

/-- No author is linked to a book twice. -/
lemma links_nodup_withAuthor (nodup : lib.links.Nodup) (bookId : String) (name : Option String) :
    (withAuthor bookId lib name).links.Nodup := by
  simp only [withAuthor]
  split
  case h_2 => rwa [withName?_links]
  case h_1 authorId _ =>
    rw [withLink]
    split
    case isTrue => rwa [withName?_links]
    case isFalse absent =>
      have new : ⟨bookId, authorId⟩ ∉ lib.links := by simpa using absent
      change (_ ++ [_]).Nodup
      rw [withName?_links, ← List.concat_eq_append]
      exact nodup.concat new

/-- An author that is added has a number. -/
lemma exists_id_withAuthor {name : String} (ne : name ≠ "") (bookId : String) (lib : Library) :
    ∃ id, ⟨id, name⟩ ∈ (withAuthor bookId lib (some name)).authors.rows := by
  have refers := refers_withName? lib .authors (some name)
  simp only [withAuthor]
  cases found : (lib.withName? .authors (some name)).idOf? .authors (some name) with
  | none =>
    rw [found] at refers
    cases refers
    exact absurd rfl ne
  | some id =>
    rw [found] at refers
    cases refers with
    | named _ mem =>
      refine ⟨id, ?_⟩
      simp only [withLink_authors]
      exact mem

/-- The author that is added by name is the one with this name. -/
lemma mem_links_withAuthor (sound : lib.NamesSound) {name : Option String} {l : Link} :
    l ∈ (withAuthor bookId lib name).links ↔
      l ∈ lib.links ∨ l.bookId = bookId ∧ ∃ n, n ≠ "" ∧ some n = name ∧
        ⟨l.authorId, n⟩ ∈ (withAuthor bookId lib name).authors.rows := by
  have refers := refers_withName? lib .authors name
  have sound' := (namesGrow_withName? lib .authors name).sound sound .authors
  simp only [withAuthor]
  split
  case h_1 id found =>
    rw [found] at refers
    rw [mem_links_withLink, withName?_links, withLink_authors]
    cases refers with
    | named ne mem =>
      constructor
      · rintro (old | rfl)
        · exact .inl old
        · exact .inr ⟨rfl, _, ne, rfl, mem⟩
      · rintro (old | ⟨rfl, n, _, e, mem'⟩)
        · exact .inl old
        · cases e
          have same := sound'.eq_of_name mem' mem rfl
          right
          cases l
          cases same
          rfl
  case h_2 found =>
    rw [found] at refers
    rw [withName?_links]
    refine ⟨Or.inl, ?_⟩
    rintro (old | ⟨_, n, ne, rfl, _⟩)
    · exact old
    · cases refers
      exact absurd rfl ne

/-- What adding authors does to the tables of names and to the authorship. -/
lemma withAuthors_spec (sound : lib.NamesSound) (bookId : String) (names : List (Option String)) :
    lib.NamesGrow (names.foldl (withAuthor bookId) lib) ∧
      (lib.links.Nodup → (names.foldl (withAuthor bookId) lib).links.Nodup) ∧
      (∀ l, l ∈ (names.foldl (withAuthor bookId) lib).links ↔
        l ∈ lib.links ∨ l.bookId = bookId ∧ ∃ n, n ≠ "" ∧ some n ∈ names ∧
          ⟨l.authorId, n⟩ ∈ (names.foldl (withAuthor bookId) lib).authors.rows) ∧
      ∀ n, n ≠ "" → some n ∈ names →
        ∃ id, ⟨id, n⟩ ∈ (names.foldl (withAuthor bookId) lib).authors.rows := by
  induction names generalizing lib with
  | nil => exact ⟨.refl _, id, by simp, by simp⟩
  | cons name rest ih =>
    rw [List.foldl_cons]
    have grows1 := namesGrow_withAuthor bookId lib name
    obtain ⟨grows, single, links, named⟩ := ih (grows1.sound sound)
    have extends' := grows.extends
    have sound' := grows.sound (grows1.sound sound)
    refine ⟨grows1.trans grows, fun nodup => single (links_nodup_withAuthor nodup _ _),
      fun l => ?_, ?_⟩
    · -- what was added for the first name is still what that name stands for at the end
      have first : ∀ n, n ≠ "" → some n = name →
          (⟨l.authorId, n⟩ ∈ (withAuthor bookId lib name).authors.rows ↔
            ⟨l.authorId, n⟩ ∈
              (rest.foldl (withAuthor bookId) (withAuthor bookId lib name)).authors.rows) := by
        rintro n ne rfl
        obtain ⟨id, mem⟩ := exists_id_withAuthor ne bookId lib
        exact ((extends' .authors).mem_iff (sound' .authors) mem).symm
      rw [links, mem_links_withAuthor sound]
      constructor
      · rintro ((old | ⟨here, n, ne, e, mem⟩) | ⟨here, n, ne, later, mem⟩)
        · exact .inl old
        · exact .inr ⟨here, n, ne, e ▸ List.mem_cons_self, (first n ne e).1 mem⟩
        · exact .inr ⟨here, n, ne, List.mem_cons_of_mem _ later, mem⟩
      · rintro (old | ⟨here, n, ne, listed, mem⟩)
        · exact .inl (.inl old)
        · cases List.mem_cons.1 listed with
          | inl e => exact .inl (.inr ⟨here, n, ne, e, (first n ne e).2 mem⟩)
          | inr later => exact .inr ⟨here, n, ne, later, mem⟩
    · intro n ne listed
      cases List.mem_cons.1 listed with
      | inl e =>
        obtain ⟨id, mem⟩ := exists_id_withAuthor ne bookId lib
        exact ⟨id, (extends' .authors).rows (e ▸ mem)⟩
      | inr later => exact named n ne later

/-! ## A book -/

/-- A written row is the only one with its id, and the last one. -/
lemma putBook_books (lib : Library) (b : StoredBook) :
    (lib.putBook b).books = lib.books.filter (·.id ≠ b.id) ++ [b] := by
  rw [putBook]
  split
  case isTrue => rfl
  case isFalse h =>
    have all : lib.books.filter (·.id ≠ b.id) = lib.books := by
      apply List.filter_eq_self.2
      intro b' mem
      simp only [List.any_eq_true, decide_eq_true_eq, not_exists, not_and] at h
      simpa using h b' mem
    simp only [all]

/-- The authorship of other books stays when a book is written. -/
lemma mem_links_putBook {b : StoredBook} {l : Link} (ne : l.bookId ≠ b.id) :
    l ∈ (lib.putBook b).links ↔ l ∈ lib.links := by
  rw [putBook]
  split
  case isTrue => simp [ne]
  case isFalse => rfl

/-- Plain storing stores a submission and changes nothing else. -/
theorem stored_gains (sound : lib.NamesSound) (storable : s.Storable) (now : String) :
    lib.Gains s (lib.stored now s) := by
  obtain ⟨title, titled⟩ := storable.title
  let named := lib.withSeriesAndGenre s
  obtain ⟨b, row⟩ : ∃ b, named.rowOf? now s = some b := by
    simp only [rowOf?, Submission.stored?, titled, Option.map_some, Option.some.injEq,
      exists_eq']
  have id := stored?_id row
  have eq : lib.stored now s = named.storedAs s b := by
    simp only [stored, row, named, Option.elim_some]
  have grows1 : lib.NamesGrow named :=
    (namesGrow_withName? _ _ _).trans (namesGrow_withName? _ _ _)
  -- the row and what is deleted with it are no names
  have written : ∀ kind, ((named.putBook b).withoutLinks s.id).names kind = named.names kind := by
    intro kind
    rw [names_withoutLinks, putBook_names]
  obtain ⟨grows2, single, links, authors⟩ := withAuthors_spec
    (fun kind => (written kind).symm ▸ grows1.sound sound kind) s.id (s.authors.getD [])
  -- so what the row refers to is still there when the authors have been added
  have grown : named.NamesGrow (lib.stored now s) := by
    intro kind
    rw [eq, storedAs, names_withIndexed, ← written kind]
    exact grows2 kind
  refine
    { objects := ?_
      grows := grows1.trans grown
      sound := (grows1.trans grown).sound sound
      book := ⟨_, _, now, b, row, ?_, ?_, ?_⟩
      links := fun l => ?_
      links_nodup := fun nodup => ?_
      authors := fun n has => ?_
      index := ?_ }
  · simp [eq, storedAs, withIndexed, withoutLinks, named, withSeriesAndGenre]
  · have refers := (refers_withName? lib .series s.series).mono
      (namesGrow_withName? _ .genres s.genre .series).extends
    have same : named.idOf? .series s.series =
        (lib.withName? .series s.series).idOf? .series s.series :=
      idOf?_withName?_of_ne (by decide) _ _ _
    rw [← same] at refers
    exact refers.mono (grown .series).extends
  · exact (refers_withName? _ .genres s.genre).mono (grown .genres).extends
  · rw [eq, storedAs, withIndexed]
    simp [withoutLinks, putBook_books, id, named, withSeriesAndGenre]
  · have mine : l ∈ ((named.putBook b).withoutLinks s.id).links ↔
        l ∈ lib.links ∧ l.bookId ≠ s.id := by
      simp only [withoutLinks, List.mem_filter, decide_eq_true_eq]
      apply and_congr_left
      intro ne
      rw [mem_links_putBook (id.symm ▸ ne)]
      simp [named, withSeriesAndGenre]
    rw [eq, storedAs]
    refine (links l).trans (or_congr mine ?_)
    simp only [Submission.HasAuthor, and_assoc]
    rfl
  · have before : named.links = lib.links := by simp [named, withSeriesAndGenre]
    rw [eq, storedAs]
    refine single (List.Nodup.filter _ ?_)
    exact (before ▸ nodup).sublist (putBook_links_sublist named b)
  · rw [eq, storedAs]
    exact authors n has.1 has.2
  · exact stored_index storable.title lib now

end Library

end BookCatalog
