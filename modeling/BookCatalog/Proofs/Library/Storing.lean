import BookCatalog.Proofs.Library.Handing
import BookCatalog.Proofs.Library.Names

/-!
# What storing a book does

`Library.stored` stores a submission plainly: every name is looked up in its table, nothing is
remembered, and the old authors and the old index row of the book are always deleted. The main
statement is `Library.run_insert_eq_ok`: where `Library.insert` succeeds, it leaves exactly these
tables, whatever names it remembered and whether or not it skipped the deletions. Two invariants
carry it:

* `KnownNames.Valid`: the remembered numbers are those of the tables.
* `Library.Lacks`: where deletions are skipped, there is nothing to delete.

Where deletions are skipped without need, the index rows that were to be deleted stay, and nothing
else is different (`Library.run_insert_tables`).
-/

namespace BookCatalog

namespace Submission

/-- The texts that the index holds for a submission. -/
def texts (s : Submission) : Index.Texts :=
  ⟨s.title, s.annotation, String.intercalate " " (s.authors.getD []).reduceOption, s.series⟩

/-- A submission that lacks nothing: it has a title, and its authors are texts. -/
structure Complete (s : Submission) : Prop where
  title : ∃ title, s.title = some title
  authors : ∃ names : List String, s.authors = some (names.map some)

/-- A submission that can be stored: it lacks nothing, and its integers fit. -/
structure Storable (s : Submission) : Prop extends s.Complete where
  fits : s.fits = true

end Submission

namespace Library

/-! ## Plain storing -/

/-- The library with a name in its table. -/
def withName (lib : Library) (kind : Kind) (name : String) : Library :=
  if ((lib.names kind).idOf? name).isSome then lib
  else lib.withNames kind ((lib.names kind).add name)

/-- The library with a name in its table, unless the name is missing or empty. -/
def withName? (lib : Library) (kind : Kind) : Option String → Library
  | none | some "" => lib
  | some name => lib.withName kind name

/-- The number that stands for a name; none for a name that is missing or empty. -/
def idOf? (lib : Library) (kind : Kind) : Option String → Option Int
  | none | some "" => none
  | some name => (lib.names kind).idOf? name

/-- The library with an author of a book. -/
def withLink (lib : Library) (l : Link) : Library :=
  if lib.links.contains l then lib else { lib with links := lib.links ++ [l] }

/-- The library without the authors of a book. -/
def withoutLinks (lib : Library) (bookId : String) : Library :=
  { lib with links := lib.links.filter (·.bookId ≠ bookId) }

/-- The library with a named author of a book. -/
def withAuthor (bookId : String) (lib : Library) (name : Option String) : Library :=
  let named := lib.withName? .authors name
  match named.idOf? .authors name with
  | some id => named.withLink ⟨bookId, id⟩
  | none => named

/-- The library with one index row for a book. -/
def withIndexed (lib : Library) (row : Index.Row) : Library :=
  { lib with index := lib.index.filter (·.bookId ≠ row.bookId) ++ [row] }

/-- The library with the names of a submission's series and genre. -/
def withSeriesAndGenre (lib : Library) (s : Submission) : Library :=
  (lib.withName? .series s.series).withName? .genres s.genre

/-- The row of a submission in a library that has the names of its series and genre. -/
def rowOf? (lib : Library) (now : String) (s : Submission) : Option StoredBook :=
  s.stored? (lib.idOf? .series s.series) (lib.idOf? .genres s.genre) now

/-- The library with a row in place of the book with its id, and the submission's authors and
texts. -/
def storedAs (lib : Library) (s : Submission) (b : StoredBook) : Library :=
  let written := (lib.putBook b).withoutLinks s.id
  ((s.authors.getD []).foldl (withAuthor s.id) written).withIndexed ⟨s.id, s.texts⟩

/-- The library with a submission stored in it. -/
def stored (lib : Library) (now : String) (s : Submission) : Library :=
  let named := lib.withSeriesAndGenre s
  (named.rowOf? now s).elim named (named.storedAs s)

/-- Nothing in the tables belongs to a book but, perhaps, its row. -/
structure Lacks (lib : Library) (bookId : String) : Prop where
  links : ∀ l ∈ lib.links, l.bookId ≠ bookId
  index : ∀ row ∈ lib.index, row.bookId ≠ bookId

end Library

/-- The remembered numbers are those of the tables. -/
def KnownNames.Valid (known : KnownNames) (lib : Library) : Prop :=
  ∀ kind name id, known.idOf? kind name = some id → (lib.names kind).idOf? name = some id

namespace Library

variable {lib after : Library} {ctx : WriteContext} {action : Action} {known known' : KnownNames}
  {kind : Kind} {bookId : String}

/-! ## Names -/

/-- Libraries with the same three tables have the same names of every kind. -/
lemma names_eq (authors : after.authors = lib.authors) (series : after.series = lib.series)
    (genres : after.genres = lib.genres) (kind : Kind) : after.names kind = lib.names kind := by
  cases kind
  · exact authors
  · exact series
  · exact genres

@[simp] lemma names_withoutLinks (lib : Library) (bookId : String) (kind : Kind) :
    (lib.withoutLinks bookId).names kind = lib.names kind :=
  names_eq rfl rfl rfl kind

@[simp] lemma names_withIndexed (lib : Library) (row : Index.Row) (kind : Kind) :
    (lib.withIndexed row).names kind = lib.names kind :=
  names_eq rfl rfl rfl kind

@[simp] lemma withName_books (lib : Library) (kind : Kind) (name : String) :
    (lib.withName kind name).books = lib.books := by
  rw [withName]
  split <;> simp

@[simp] lemma withName_links (lib : Library) (kind : Kind) (name : String) :
    (lib.withName kind name).links = lib.links := by
  rw [withName]
  split <;> simp

@[simp] lemma withName_index (lib : Library) (kind : Kind) (name : String) :
    (lib.withName kind name).index = lib.index := by
  rw [withName]
  split <;> simp

@[simp] lemma withName_objects (lib : Library) (kind : Kind) (name : String) :
    (lib.withName kind name).objects = lib.objects := by
  rw [withName]
  split <;> simp

@[simp] lemma withName?_books (lib : Library) (kind : Kind) (name : Option String) :
    (lib.withName? kind name).books = lib.books := by
  unfold withName?
  split <;> simp

@[simp] lemma withName?_links (lib : Library) (kind : Kind) (name : Option String) :
    (lib.withName? kind name).links = lib.links := by
  unfold withName?
  split <;> simp

@[simp] lemma withName?_index (lib : Library) (kind : Kind) (name : Option String) :
    (lib.withName? kind name).index = lib.index := by
  unfold withName?
  split <;> simp

@[simp] lemma withName?_objects (lib : Library) (kind : Kind) (name : Option String) :
    (lib.withName? kind name).objects = lib.objects := by
  unfold withName?
  split <;> simp

/-- A name of one kind leaves the names of another kind alone. -/
lemma idOf?_withName?_of_ne {kind' : Kind} (ne : kind' ≠ kind) (lib : Library)
    (name other : Option String) :
    (lib.withName? kind name).idOf? kind' other = lib.idOf? kind' other := by
  have same : (lib.withName? kind name).names kind' = lib.names kind' := by
    unfold withName? withName
    split
    case h_1 => rfl
    case h_2 => rfl
    case h_3 =>
      split
      case isTrue => rfl
      case isFalse => rw [names_withNames, if_neg ne]
  simp only [idOf?, same]

/-- A name that is not empty is put into its table. -/
lemma withName?_some {name : String} (ne : name ≠ "") (lib : Library) (kind : Kind) :
    lib.withName? kind (some name) = lib.withName kind name := by
  unfold withName?
  split
  case h_1 e => cases e
  case h_2 e => cases e; exact absurd rfl ne
  case h_3 e => cases e; rfl

/-- The number of a name that is not empty is that in its table. -/
lemma idOf?_some {name : String} (ne : name ≠ "") (lib : Library) (kind : Kind) :
    lib.idOf? kind (some name) = (lib.names kind).idOf? name := by
  unfold idOf?
  split
  case h_1 e => cases e
  case h_2 e => cases e; exact absurd rfl ne
  case h_3 e => cases e; rfl

/-- A name that was put into its table has a number. -/
lemma isSome_idOf?_withName (lib : Library) (kind : Kind) (name : String) :
    (((lib.withName kind name).names kind).idOf? name).isSome := by
  rw [withName]
  split
  case isTrue h => exact h
  case isFalse h =>
    have new : (lib.names kind).idOf? name = none := by simpa using h
    rw [names_withNames_self, Dimension.idOf?_add_self new]
    rfl

/-- Adding a name leaves the numbers of all names as they are. -/
lemma idOf?_withName {kind' : Kind} {other : String} {id : Int} (name : String)
    (h : (lib.names kind').idOf? other = some id) :
    ((lib.withName kind name).names kind').idOf? other = some id := by
  rw [withName]
  split
  case isTrue => exact h
  case isFalse =>
    rw [names_withNames]
    split
    case isTrue e =>
      subst e
      exact Dimension.idOf?_add_of_some h
    case isFalse => exact h

/-- Adding a name gives it the next number. It is refused if it is there already. -/
lemma insertName_eq_ok {name : String} {id : Int}
    (ok : insertName ctx kind name lib = .ok (id, after)) :
    after = lib.withName kind name ∧ (after.names kind).idOf? name = some id := by
  simp only [insertName, bind_eq_ok] at ok
  obtain ⟨_, _, _, _, ok⟩ := ok
  split at ok
  case isTrue => cases ok
  case isFalse h =>
    have new : (lib.names kind).idOf? name = none := by simpa using h
    cases ok
    refine ⟨by simp [withName, new], ?_⟩
    rw [names_withNames_self, Dimension.idOf?_add_self new]

/-- The statement for a name adds it if it is new, and gives its number. -/
lemma nameId_eq_ok {name : String} {id : Int} (ok : nameId ctx kind name lib = .ok (id, after)) :
    after = lib.withName kind name ∧ (after.names kind).idOf? name = some id := by
  rw [nameId] at ok
  split at ok
  · split at ok
    case h_1 id' found =>
      cases ok
      exact ⟨by simp [withName, found], found⟩
    case h_2 => cases ok
  · exact insertName_eq_ok ok

end Library

/-- Nothing that is remembered is never wrong. -/
lemma KnownNames.valid_nil (lib : Library) : KnownNames.Valid [] lib := by
  intro kind name id found
  cases found

/-- What is remembered of the names is about nothing else. -/
lemma KnownNames.Valid.of_names {lib after : Library} {known : KnownNames} (valid : known.Valid lib)
    (same : ∀ kind, after.names kind = lib.names kind) : known.Valid after := by
  intro kind name id found
  rw [same]
  exact valid kind name id found

/-- Remembered numbers stay right when a name is added. -/
lemma KnownNames.Valid.withName {lib : Library} {known : KnownNames} (valid : known.Valid lib)
    (kind : Kind) (name : String) : known.Valid (lib.withName kind name) :=
  fun _ _ _ h => Library.idOf?_withName name (valid _ _ _ h)

/-- One more number that is right may be remembered. -/
lemma KnownNames.Valid.cons {lib : Library} {known : KnownNames} {kind : Kind} {r : Named}
    (valid : known.Valid lib) (h : (lib.names kind).idOf? r.name = some r.id) :
    KnownNames.Valid ((kind, r) :: known) lib := by
  intro kind' name id found
  simp only [KnownNames.idOf?, List.find?_cons] at found
  split at found
  case h_1 here =>
    simp only [Bool.and_eq_true, decide_eq_true_eq] at here
    obtain ⟨rfl, rfl⟩ := here
    cases found
    exact h
  case h_2 => exact valid _ _ _ found

namespace Library

variable {lib after : Library} {ctx : WriteContext} {action : Action} {known known' : KnownNames}
  {kind : Kind} {bookId : String}

/-- Resolving a name adds it if it is new. A remembered name is in its table already. -/
lemma resolve_eq_ok {name : String} {id : Int} (valid : known.Valid lib)
    (ok : (resolve ctx action known kind name).run lib = (.ok (id, known'), after)) :
    after = lib.withName kind name ∧ (after.names kind).idOf? name = some id ∧
      known'.Valid after := by
  rw [resolve] at ok
  split at ok
  case h_1 id' remembered =>
    cases ok
    have found := valid _ _ _ remembered
    exact ⟨by simp [withName, found], found, valid⟩
  case h_2 =>
    obtain ⟨id', between, named, ok⟩ := Transaction.run_bind_eq_ok.1 ok
    obtain ⟨rfl, found⟩ := nameId_eq_ok (Transaction.run_execute_eq_ok.1 named)
    cases ok
    exact ⟨rfl, found, (valid.withName kind name).cons found⟩

/-- A name is resolved to its number in its table, where it is put if it was not there. -/
lemma resolve?_eq_ok {name : Option String} {id : Option Int} (valid : known.Valid lib)
    (ok : (resolve? ctx action known kind name).run lib = (.ok (id, known'), after)) :
    after = lib.withName? kind name ∧ id = after.idOf? kind name ∧ known'.Valid after := by
  unfold resolve? at ok
  split at ok
  case h_1 =>
    cases ok
    exact ⟨rfl, rfl, valid⟩
  case h_2 =>
    cases ok
    exact ⟨rfl, rfl, valid⟩
  case h_3 name ne =>
    have ne : name ≠ "" := fun e => ne e
    obtain ⟨⟨id', known1⟩, between, resolved, ok⟩ := Transaction.run_bind_eq_ok.1 ok
    obtain ⟨named, found, valid'⟩ := resolve_eq_ok valid resolved
    cases ok
    rw [withName?_some ne, idOf?_some ne]
    exact ⟨named, found.symm, valid'⟩

/-! ## Authors -/

@[simp] lemma withLink_books (lib : Library) (l : Link) : (lib.withLink l).books = lib.books := by
  rw [withLink]
  split <;> rfl

@[simp] lemma withLink_index (lib : Library) (l : Link) : (lib.withLink l).index = lib.index := by
  rw [withLink]
  split <;> rfl

@[simp] lemma withLink_objects (lib : Library) (l : Link) :
    (lib.withLink l).objects = lib.objects := by
  rw [withLink]
  split <;> rfl

@[simp] lemma withLink_names (lib : Library) (l : Link) (kind : Kind) :
    (lib.withLink l).names kind = lib.names kind := by
  rw [withLink]
  split
  case isTrue => rfl
  case isFalse => cases kind <;> rfl

/-- A statement on rows does to them what it is made for. -/
lemma changeRows_eq_ok {t : Table} {f : Library → Library} (ok : changeRows t f lib = .ok after) :
    after = f lib := by
  obtain ⟨_, _, changed⟩ := bind_eq_ok.1 ok
  cases changed
  rfl

/-- A link that is accepted is there. -/
lemma addLink_eq_ok {l : Link} (ok : addLink l lib = .ok after) : after = lib.withLink l := by
  obtain ⟨_, _, added⟩ := bind_eq_ok.1 ok
  split at added
  case isTrue linked =>
    cases added
    rw [withLink, if_pos linked]
  case isFalse unlinked =>
    obtain ⟨_, _, added⟩ := bind_eq_ok.1 added
    cases added
    rw [withLink, if_neg unlinked]

/-- An author who is added is a named author of the book, and remembered numbers stay right. -/
lemma addAuthor_eq_ok {name : Option String} (valid : known.Valid lib)
    (ok : (addAuthor ctx bookId known name).run lib = (.ok known', after)) :
    after = lib.withAuthor bookId name ∧ known'.Valid after := by
  obtain ⟨⟨id, known1⟩, named, resolved, ok⟩ := Transaction.run_bind_eq_ok.1 ok
  obtain ⟨rfl, eq, valid'⟩ := resolve?_eq_ok valid resolved
  cases id with
  | some id =>
    obtain ⟨_, linked, added, ok⟩ := Transaction.run_bind_eq_ok.1 ok
    have added := addLink_eq_ok (Transaction.run_change_eq_ok.1 added)
    cases ok
    have eq' : after = withAuthor bookId lib name := by
      simp only [withAuthor, ← eq]
      exact added
    exact ⟨eq', valid'.of_names fun kind => by rw [added, withLink_names]⟩
  | none =>
    cases ok
    refine ⟨?_, valid'⟩
    simp only [withAuthor, ← eq]

/-- The same for all authors of a book. -/
lemma addAuthors_eq_ok {authors : List (Option String)} (valid : known.Valid lib)
    (ok : (authors.foldlM (addAuthor ctx bookId) known : Transaction KnownNames).run lib =
      (.ok known', after)) :
    after = authors.foldl (withAuthor bookId) lib ∧ known'.Valid after := by
  induction authors generalizing known lib with
  | nil =>
    cases ok
    exact ⟨rfl, valid⟩
  | cons name rest ih =>
    rw [List.foldlM_cons] at ok
    obtain ⟨known1, between, added, ok⟩ := Transaction.run_bind_eq_ok.1 ok
    obtain ⟨rfl, valid'⟩ := addAuthor_eq_ok valid added
    exact ih valid' ok

@[simp] lemma withAuthor_books (bookId : String) (lib : Library) (name : Option String) :
    (withAuthor bookId lib name).books = lib.books := by
  simp only [withAuthor]
  split <;> simp

@[simp] lemma withAuthor_index (bookId : String) (lib : Library) (name : Option String) :
    (withAuthor bookId lib name).index = lib.index := by
  simp only [withAuthor]
  split <;> simp

@[simp] lemma withAuthor_objects (bookId : String) (lib : Library) (name : Option String) :
    (withAuthor bookId lib name).objects = lib.objects := by
  simp only [withAuthor]
  split <;> simp

/-- What adding one author leaves alone, adding several does too. -/
lemma withAuthors_keep {α : Type} {view : Library → α}
    (keep : ∀ lib name, view (withAuthor bookId lib name) = view lib) (lib : Library)
    (names : List (Option String)) : view (names.foldl (withAuthor bookId) lib) = view lib := by
  induction names generalizing lib with
  | nil => rfl
  | cons name rest ih => rw [List.foldl_cons, ih, keep]

@[simp] lemma withAuthors_books (bookId : String) (lib : Library) (names : List (Option String)) :
    (names.foldl (withAuthor bookId) lib).books = lib.books :=
  withAuthors_keep (withAuthor_books bookId) lib names

@[simp] lemma withAuthors_index (bookId : String) (lib : Library) (names : List (Option String)) :
    (names.foldl (withAuthor bookId) lib).index = lib.index :=
  withAuthors_keep (withAuthor_index bookId) lib names

@[simp] lemma withAuthors_objects (bookId : String) (lib : Library)
    (names : List (Option String)) :
    (names.foldl (withAuthor bookId) lib).objects = lib.objects :=
  withAuthors_keep (withAuthor_objects bookId) lib names

/-- The joined names are those of the authors, all of which are texts. -/
lemma joinedAuthors_eq_ok {authors : List (Option String)} {joined : String}
    (ok : joinedAuthors authors = .ok joined) :
    (∃ names : List String, authors = names.map some) ∧
      joined = String.intercalate " " authors.reduceOption := by
  rw [joinedAuthors] at ok
  split at ok
  case h_1 => cases ok
  case h_2 none =>
    cases ok
    refine ⟨⟨authors.reduceOption, ?_⟩, rfl⟩
    have texts : ∀ name ∈ authors, name.isSome := by
      intro name mem
      simpa using List.findIdx?_eq_none_iff.1 none name mem
    clear none
    induction authors with
    | nil => rfl
    | cons name rest ih =>
      obtain ⟨text, rfl⟩ := Option.isSome_iff_exists.1 (texts name List.mem_cons_self)
      rw [List.reduceOption_cons_of_some, List.map_cons,
        ← ih fun name mem => texts name (List.mem_cons_of_mem _ mem)]

/-! ## The row of a book and what belongs to it -/

@[simp] lemma putBook_names (lib : Library) (b : StoredBook) (kind : Kind) :
    (lib.putBook b).names kind = lib.names kind := by
  rw [putBook]
  split <;> cases kind <;> rfl

@[simp] lemma putBook_index (lib : Library) (b : StoredBook) :
    (lib.putBook b).index = lib.index := by
  rw [putBook]
  split <;> rfl

@[simp] lemma putBook_objects (lib : Library) (b : StoredBook) :
    (lib.putBook b).objects = lib.objects := by
  rw [putBook]
  split <;> rfl

/-- A replaced book leaves no more authorship behind than there was. -/
lemma putBook_links_sublist (lib : Library) (b : StoredBook) :
    (lib.putBook b).links.Sublist lib.links := by
  rw [putBook]
  split
  case isTrue => exact List.filter_sublist
  case isFalse => exact List.Sublist.refl _

/-- A written row takes the authorship of the book with its id along, if none is left over from a
book that is gone. -/
lemma links_putBook_ne {b : StoredBook}
    (owned : ∀ l ∈ lib.links, l.bookId = b.id → ∃ b' ∈ lib.books, b'.id = b.id) :
    ∀ l ∈ (lib.putBook b).links, l.bookId ≠ b.id := by
  intro l mem own
  rw [putBook] at mem
  split at mem
  case isTrue => simp [own] at mem
  case isFalse absent =>
    obtain ⟨b', stored, same⟩ := owned l mem own
    exact absent (List.any_eq_true.2 ⟨b', stored, by simpa using same⟩)

/-- The row of a submission has its id. -/
lemma stored?_id {s : Submission} {seriesId genreId : Option Int} {now : String} {b : StoredBook}
    (row : s.stored? seriesId genreId now = some b) : b.id = s.id := by
  obtain ⟨title, _, rfl⟩ := Option.map_eq_some_iff.1 row
  rfl

/-- The statement for a row puts it in place of the book with its id. -/
lemma writeBook_eq_ok {s : Submission} {seriesId genreId : Option Int}
    (ok : (writeBook ctx s seriesId genreId).run lib = (.ok (), after)) :
    s.fits = true ∧ ∃ b, s.stored? seriesId genreId ctx.now = some b ∧ after = lib.putBook b := by
  obtain ⟨_, between, checked, written⟩ := Transaction.run_bind_eq_ok.1 ok
  obtain ⟨_, rfl⟩ := Transaction.run_check_eq_ok.1 checked
  split at written
  case isFalse => cases written
  case isTrue fits =>
    have put := Transaction.run_change_eq_ok.1 written
    simp only [bind_eq_ok] at put
    obtain ⟨_, _, put⟩ := put
    split at put
    case h_2 => cases put
    case h_1 b row =>
      obtain ⟨_, _, put⟩ := bind_eq_ok.1 put
      cases put
      exact ⟨fits, b, row, rfl⟩

/-- Where a book has no links, there are none to delete. -/
lemma withoutLinks_eq_self (none : ∀ l ∈ lib.links, l.bookId ≠ bookId) :
    lib.withoutLinks bookId = lib := by
  have all : lib.links.filter (·.bookId ≠ bookId) = lib.links :=
    List.filter_eq_self.2 fun l mem => by simpa using none l mem
  rw [withoutLinks, all]

/-- Where a book has no index row, there is none to delete. -/
lemma index_filter_eq_self (none : ∀ row ∈ lib.index, row.bookId ≠ bookId) :
    lib.index.filter (·.bookId ≠ bookId) = lib.index :=
  List.filter_eq_self.2 fun row mem => by simpa using none row mem

/-- The authors of a book are deleted, or there are none. -/
lemma removeLinks_eq_ok {needless : Bool}
    (none : needless = true → ∀ l ∈ lib.links, l.bookId ≠ bookId)
    (ok : (Transaction.skipIf needless (Transaction.change action (removeLinks bookId))).run lib =
      (.ok (), after)) :
    after = lib.withoutLinks bookId := by
  cases needless with
  | true =>
    cases ok
    exact (withoutLinks_eq_self (none rfl)).symm
  | false => exact changeRows_eq_ok (Transaction.run_change_eq_ok.1 ok)

/-- A new index row of a book is added, and the old ones are deleted unless that is skipped. -/
lemma addIndexed_eq_ok {needless : Bool} {between : Library} (row : Index.Row)
    (removed : (Transaction.skipIf needless
      (Transaction.change action (removeIndexed row.bookId))).run lib = (.ok (), between))
    (added : (Transaction.change action (addIndexed row)).run between = (.ok (), after)) :
    after = { lib with
      index := (if needless then lib.index else lib.index.filter (·.bookId ≠ row.bookId)) ++
        [row] } := by
  rw [changeRows_eq_ok (Transaction.run_change_eq_ok.1 added)]
  cases needless with
  | true =>
    cases removed
    rfl
  | false =>
    rw [changeRows_eq_ok (Transaction.run_change_eq_ok.1 removed)]
    rfl

/-! ## A book -/

/-- A stored submission has the last row of the index, and no other one. -/
lemma stored_index {s : Submission} (titled : ∃ title, s.title = some title) (lib : Library)
    (now : String) :
    (lib.stored now s).index = lib.index.filter (·.bookId ≠ s.id) ++ [⟨s.id, s.texts⟩] := by
  obtain ⟨title, titled⟩ := titled
  have row : ((lib.withSeriesAndGenre s).rowOf? now s).isSome := by
    simp [rowOf?, Submission.stored?, titled]
  obtain ⟨b, row⟩ := Option.isSome_iff_exists.1 row
  simp only [stored, row, Option.elim_some, storedAs, withIndexed, withAuthors_index]
  simp [withoutLinks, withSeriesAndGenre]

/-- A book is stored as if nothing were remembered, and its old index rows are left if deletions are
skipped. The authors need no deletion of their own if no authorship is left over from a book that is
gone. -/
theorem run_insert_tables {fresh : Bool} {s : Submission} (valid : known.Valid lib)
    (owned : fresh = true → ∀ l ∈ lib.links, l.bookId = s.id → ∃ b ∈ lib.books, b.id = s.id)
    (ok : (insert ctx fresh known s).run lib = (.ok known', after)) :
    s.Storable ∧ known'.Valid after ∧
      after = { lib.stored ctx.now s with
        index := (if fresh then lib.index else lib.index.filter (·.bookId ≠ s.id)) ++
          [⟨s.id, s.texts⟩] } := by
  rw [insert_eq] at ok
  -- the names of the series and the genre, the row, and the authors that go
  obtain ⟨⟨seriesId, known1⟩, lib1, series, ok1⟩ := Transaction.run_bind_eq_ok.1 ok
  obtain ⟨⟨genreId, known2⟩, lib2, genre, ok2⟩ := Transaction.run_bind_eq_ok.1 ok1
  obtain ⟨_, lib3, written, ok3⟩ := Transaction.run_bind_eq_ok.1 ok2
  obtain ⟨_, lib4, unlinked, ok4⟩ := Transaction.run_bind_eq_ok.1 ok3
  obtain ⟨eq1, id1, valid1⟩ := resolve?_eq_ok valid series
  obtain ⟨eq2, id2, valid2⟩ := resolve?_eq_ok valid1 genre
  obtain ⟨fits, b, row, eq3⟩ := writeBook_eq_ok written
  have id := stored?_id row
  have books2 : lib2.books = lib.books := by rw [eq2, eq1]; simp
  have links2 : lib2.links = lib.links := by rw [eq2, eq1]; simp
  have eq4 : lib4 = lib3.withoutLinks s.id := by
    refine removeLinks_eq_ok (fun new => ?_) unlinked
    rw [eq3, ← id]
    exact links_putBook_ne (by rw [links2, books2, id]; exact owned new)
  split at ok4
  case h_1 => cases ok4
  case h_2 authors given =>
    -- the authors that come, and the index row
    obtain ⟨known5, lib5, linked, ok5⟩ := Transaction.run_bind_eq_ok.1 ok4
    obtain ⟨_, lib6, removed, ok6⟩ := Transaction.run_bind_eq_ok.1 ok5
    have valid4 : known2.Valid lib4 :=
      valid2.of_names fun kind => by rw [eq4, eq3, names_withoutLinks, putBook_names]
    obtain ⟨eq5, valid5⟩ := addAuthors_eq_ok valid4 linked
    split at ok6
    case h_1 => cases ok6
    case h_2 joined all =>
      obtain ⟨_, lib7, added, ok7⟩ := Transaction.run_bind_eq_ok.1 ok6
      obtain ⟨texts, rfl⟩ := joinedAuthors_eq_ok all
      have index5 : lib5.index = lib.index := by
        rw [eq5, withAuthors_index, eq4, eq3]
        simp [withoutLinks, eq2, eq1]
      have eq7 := addIndexed_eq_ok ⟨s.id, s.title, s.annotation, _, s.series⟩ removed added
      rw [index5] at eq7
      cases ok7
      refine ⟨⟨⟨?_, ?_⟩, fits⟩, valid5.of_names fun kind => ?_, ?_⟩
      · obtain ⟨title, given, _⟩ := Option.map_eq_some_iff.1 row
        exact ⟨title, given⟩
      · obtain ⟨names, rfl⟩ := texts
        exact ⟨names, given⟩
      · rw [eq7]
        exact names_eq rfl rfl rfl kind
      · -- plain storing goes through the same libraries
        have named : lib.withSeriesAndGenre s = lib2 := by rw [eq2, eq1, withSeriesAndGenre]
        have series2 : lib2.idOf? .series s.series = seriesId := by
          rw [eq2, idOf?_withName?_of_ne (by decide), id1]
        have row2 : lib2.rowOf? ctx.now s = some b := by rw [rowOf?, series2, ← id2, row]
        have texts : s.texts = ⟨s.title, s.annotation, _, s.series⟩ := rfl
        rw [stored, named, row2, Option.elim_some, storedAs, ← eq3, ← eq4, texts, given,
          Option.getD_some, ← eq5]
        exact eq7

/-- A book is stored as if nothing were remembered and nothing skipped. -/
theorem run_insert_eq_ok {fresh : Bool} {s : Submission} (valid : known.Valid lib)
    (lacks : fresh = true → lib.Lacks s.id)
    (ok : (insert ctx fresh known s).run lib = (.ok known', after)) :
    s.Storable ∧ after = lib.stored ctx.now s ∧ known'.Valid after := by
  obtain ⟨storable, valid', eq⟩ := run_insert_tables valid
    (fun new l mem own => absurd own ((lacks new).links l mem)) ok
  refine ⟨storable, ?_, valid'⟩
  have rows : (if fresh then lib.index else lib.index.filter (·.bookId ≠ s.id)) =
      lib.index.filter (·.bookId ≠ s.id) := by
    cases fresh with
    | false => rfl
    | true => exact (index_filter_eq_self (lacks rfl).index).symm
  rw [eq, rows, ← stored_index storable.title]

end Library

end BookCatalog
