import BookCatalog.Proofs.Library.Batches
import BookCatalog.Proofs.Library.Clearing

/-!
# References

A stored batch keeps the tables of a library together, whatever it takes its deletions to be good
for: the index may end up with rows too many, but no name is there twice, and no number refers to
nothing. The central notions:

* `Library.Intact`: names and numbers stand once in their tables, and every reference leads to a
  row.
* `Library.Gains.intact`: a stored submission keeps a library intact.
* `Library.insertAll_intact`: a stored batch keeps it intact and only adds names, whether or not the
  deletions that it skips would have been needed.
-/

namespace BookCatalog.Library

variable {lib after : Library} {ctx : WriteContext} {interval total : Nat} {fresh : Bool}
  {known known' : KnownNames} {batch : Batch} {s : Submission} {rest subs : List Submission}

/-- Names and numbers stand once in their tables, every reference leads to a row, and nobody is an
author of a book twice. -/
structure Intact (lib : Library) : Prop where
  sound : lib.NamesSound
  series : ∀ b ∈ lib.books, ∀ id ∈ b.seriesId, lib.series.Has id
  genres : ∀ b ∈ lib.books, ∀ id ∈ b.genreId, lib.genres.Has id
  books : ∀ l ∈ lib.links, ∃ b ∈ lib.books, b.id = l.bookId
  authors : ∀ l ∈ lib.links, lib.authors.Has l.authorId
  linked : lib.links.Nodup

/-- The names do not depend on the index. -/
lemma names_withIndex (lib : Library) (index : List Index.Row) (kind : Kind) :
    ({ lib with index } : Library).names kind = lib.names kind :=
  names_eq rfl rfl rfl kind

/-- Nothing refers to the index. -/
lemma Intact.withIndex (intact : lib.Intact) (index : List Index.Row) :
    Intact { lib with index } where
  sound kind := (names_withIndex lib index kind).symm ▸ intact.sound kind
  series := intact.series
  genres := intact.genres
  books := intact.books
  authors := intact.authors
  linked := intact.linked

/-- Names that have grown have done so whatever the index is. -/
lemma NamesGrow.withIndex (h : lib.NamesGrow after) (index : List Index.Row) :
    lib.NamesGrow { after with index } :=
  fun kind => (names_withIndex after index kind).symm ▸ h kind

/-- Tables without rows are intact. -/
lemma intact_of_empty (names : ∀ kind, (lib.names kind).rows = []) (books : lib.books = [])
    (links : lib.links = []) : lib.Intact where
  sound kind := .of_empty (names kind)
  series := by simp [books]
  genres := by simp [books]
  books := by simp [links]
  authors := by simp [links]
  linked := by simp [links]

/-- An emptied library is intact. -/
lemma intact_emptied (lib : Library) : lib.emptied.Intact :=
  intact_of_empty (fun kind => by cases kind <;> rfl) rfl rfl

/-- A new library is intact. -/
lemma intact_fresh : Library.fresh.Intact := by
  rw [fresh_eq]
  exact intact_of_empty (fun kind => by cases kind <;> rfl) rfl rfl

/-- The names of an emptied library follow those that were there before. -/
lemma follows_emptied (lib : Library) (kind : Kind) :
    (lib.names kind).Follows (lib.emptied.names kind) := by
  cases kind <;> exact Dimension.follows_clear _

/-! ## A book -/

/-- A stored submission keeps a library intact. -/
theorem Gains.intact (gains : lib.Gains s after) (intact : lib.Intact) : after.Intact := by
  have extends_ := gains.extends_names
  obtain ⟨seriesId, genreId, now, b, stored, series, genre, books⟩ := gains.book
  have stays : ∀ b' ∈ after.books, b' ∈ lib.books ∨ b' = b := by
    intro b' mem
    rw [books, List.mem_append, List.mem_singleton] at mem
    exact mem.imp_left fun old => (List.mem_filter.1 old).1
  have id := stored?_id stored
  obtain ⟨title, -, rfl⟩ := Option.map_eq_some_iff.1 stored
  refine
    { sound := gains.sound
      series := fun b' mem i own => ?_
      genres := fun b' mem i own => ?_
      books := fun l mem => ?_
      authors := fun l mem => ?_
      linked := gains.links_nodup intact.linked }
  · rcases stays b' mem with old | rfl
    · exact (intact.series b' old i own).mono (extends_ .series)
    · exact series.has i own
  · rcases stays b' mem with old | rfl
    · exact (intact.genres b' old i own).mono (extends_ .genres)
    · exact genre.has i own
  · rw [books]
    rcases (gains.links l).1 mem with ⟨old, ne⟩ | ⟨own, -⟩
    · obtain ⟨b', mem, same⟩ := intact.books l old
      have kept : b'.id ≠ s.id := same ▸ ne
      exact ⟨b', List.mem_append_left _ (List.mem_filter.2 ⟨mem, by simpa using kept⟩), same⟩
    · exact ⟨_, List.mem_append_right _ List.mem_cons_self, id.trans own.symm⟩
  · rcases (gains.links l).1 mem with ⟨old, -⟩ | ⟨-, n, -, named⟩
    · exact (intact.authors l old).mono (extends_ .authors)
    · exact ⟨_, named, rfl⟩

/-- A submission that is stored keeps a library intact and only adds names, whatever deletions are
skipped. -/
lemma Intact.run_insert (intact : lib.Intact) (valid : known.Valid lib)
    (ok : (insert ctx fresh known s).run lib = (.ok known', after)) :
    after.Intact ∧ lib.NamesGrow after ∧ known'.Valid after := by
  -- an author is linked to a book that is there, and goes with it when it is replaced
  have owned : fresh = true → ∀ l ∈ lib.links, l.bookId = s.id → ∃ b ∈ lib.books, b.id = s.id :=
    fun _ l mem own => own ▸ intact.books l mem
  obtain ⟨storable, valid', rfl⟩ := run_insert_tables valid owned ok
  have gains := stored_gains intact.sound storable ctx.now
  exact ⟨(gains.intact intact).withIndex _, gains.grows.withIndex _, valid'⟩

/-- A row is written only if no other writer holds the library. -/
lemma writeBook_unlocked {seriesId genreId : Option Int}
    (ok : (writeBook ctx s seriesId genreId).run lib = (.ok (), after)) : ctx.locked = false := by
  obtain ⟨_, _, _, written⟩ := Transaction.run_bind_eq_ok.1 ok
  split at written
  case isFalse => cases written
  case isTrue =>
    obtain ⟨_, unlocked, _⟩ := bind_eq_ok.1 (Transaction.run_change_eq_ok.1 written)
    exact needUnlocked_eq_ok.1 unlocked

/-- No book is stored while another writer holds the library. -/
lemma run_insert_unlocked (ok : (insert ctx fresh known s).run lib = (.ok known', after)) :
    ctx.locked = false := by
  rw [insert_eq] at ok
  obtain ⟨_, _, _, ok⟩ := Transaction.run_bind_eq_ok.1 ok
  obtain ⟨_, _, _, ok⟩ := Transaction.run_bind_eq_ok.1 ok
  obtain ⟨_, _, written, _⟩ := Transaction.run_bind_eq_ok.1 ok
  exact writeBook_unlocked written

/-! ## A batch -/

/-- So does the rest of a batch. -/
lemma insertRest_intact (intact : batch.tables.Intact) (valid : batch.known.Valid batch.tables)
    (ok : (insertRest ctx interval total fresh batch rest).outcome = .ok ()) :
    (insertRest ctx interval total fresh batch rest).tables.Intact ∧
      batch.tables.NamesGrow (insertRest ctx interval total fresh batch rest).tables := by
  induction rest generalizing batch with
  | nil => exact ⟨intact, .refl _⟩
  | cons s rest ih =>
    rw [insertRest_cons] at ok ⊢
    split at ok
    case h_1 => cases ok
    case h_2 known after stored =>
      obtain ⟨intact', grows, valid'⟩ := intact.run_insert valid stored
      obtain ⟨all, grows'⟩ :=
        @ih (batch.advance interval total s.id known after) intact' valid' ok
      exact ⟨all, grows.trans grows'⟩

/-- A batch that is stored keeps a library intact and only adds names. -/
theorem insertAll_intact (intact : lib.Intact)
    (ok : (lib.insertAll ctx interval fresh subs).outcome = .ok ()) :
    (lib.insertAll ctx interval fresh subs).tables.Intact ∧
      lib.NamesGrow (lib.insertAll ctx interval fresh subs).tables := by
  refine insertRest_intact ?_ ?_ ok
  · exact intact
  · exact KnownNames.valid_nil lib

/-- A batch that changes anything is not stored while another writer holds the library. -/
lemma insertAll_unlocked (ok : (lib.insertAll ctx interval fresh subs).outcome = .ok ())
    (changed : (lib.insertAll ctx interval fresh subs).tables ≠ lib) : ctx.locked = false := by
  cases subs with
  | nil => exact absurd rfl changed
  | cons s rest =>
    rw [insertAll, insertRest_cons] at ok
    split at ok
    case h_1 => cases ok
    case h_2 stored => exact run_insert_unlocked stored

end BookCatalog.Library
