import BookCatalog.Proofs.Library.Listings
import BookCatalog.Proofs.Session.Pages
import BookCatalog.Proofs.Workspace.Regular

/-!
# Listings of names

Whatever has happened in a workspace, every catalog has one list of the names of each kind: all of
them, each once and in alphabetical order. The pages of any size make it up from its beginning, a
name is given for the numbers that occur in it and for no others, and the books that are searched or
looked up carry no other names (`listings_run`). The central notions:

* `Session.listing`: the first pages of one size.
* `Session.Listed`: the names of a kind that a session sees, in order.
-/

namespace BookCatalog

namespace Session

/-- The first `n` pages of the names of a kind, all of one size. -/
def listing (s : Session) (kind : Kind) (size n : Nat) : Except Failure (List (Page Named)) :=
  (List.range n).mapM fun (k : Nat) => s.list kind size (k * size)

/-- The names of a kind that a session sees, each once and in alphabetical order. -/
structure Listed (s : Session) (kind : Kind) (names : List Named) : Prop where
  all : names.Perm (s.library.names kind).rows
  once : (names.map Named.id).Nodup
  sorted : names.Pairwise Named.Precedes

variable {s : Session} {kind : Kind} {size n : Nat} {names : List Named} {id : Int} {r : Named}
  {limit offset : Int} {page : Page Named} {pages : List (Page Named)}

/-- A regular session sees the names of a kind in alphabetical order, each once. -/
lemma Regular.listed (regular : s.Regular) (kind : Kind) :
    s.Listed kind (Library.alphabetical (s.library.names kind)) := by
  have sound := regular.library.intact.sound kind
  have all := Library.alphabetical_perm (s.library.names kind)
  exact ⟨all, (all.map Named.id).nodup_iff.2 sound.ids_nodup, Library.alphabetical_sorted sound⟩

/-- An action succeeds or not, however its failures are reported. -/
lemma mapError_eq_ok {ε ε' α : Type} {x : Except ε α} {f : ε → ε'} {a : α} :
    x.mapError f = .ok a ↔ x = .ok a := by
  cases x <;> simp [Except.mapError]

/-- When a session looks into one of its tables and takes some integers. -/
lemma look_eq_ok {α : Type} {action : Action} {tables : List Table} {args : List Int}
    {answer : Library → α} {a : α} :
    (do
      let lib ← Library.during action s.opened
      Library.during action (lib.needTables tables)
      Library.needFits args
      pure (answer lib)) = .ok a ↔
    (s.Offers tables ∧ ∀ n ∈ args, fitsColumn n = true) ∧ a = answer s.library := by
  rw [Offers, ← Library.needTables_eq_ok, ← Library.needFits_eq_ok]
  simp only [bind_eq_ok, Library.during_eq_ok, opened_eq_ok]
  constructor
  · rintro ⟨_, ⟨opened, rfl⟩, ⟨⟩, tables, ⟨⟩, fits, ⟨⟩⟩
    exact ⟨⟨⟨opened, tables⟩, fits⟩, rfl⟩
  · rintro ⟨⟨⟨opened, tables⟩, fits⟩, rfl⟩
    exact ⟨_, ⟨opened, rfl⟩, (), tables, (), fits, rfl⟩

/-- A number is given the name that it has in the listing, and no other number is given a name. -/
lemma Listed.load_eq_ok (listed : s.Listed kind names) : s.load kind id = .ok (some r) ↔
    (s.Offers [kind.table] ∧ fitsColumn id = true) ∧ r ∈ names ∧ r.id = id := by
  have looked : s.load kind id = .ok (some r) ↔
    (s.Offers [kind.table] ∧ ∀ n ∈ [id], fitsColumn n = true) ∧
      some r = (s.library.names kind).byId? id := by
    rw [load, mapError_eq_ok]
    exact look_eq_ok
  rw [looked, List.forall_mem_singleton]
  refine and_congr_right fun _ => ?_
  rw [Dimension.byId?, ← find?_perm listed.once listed.all, eq_comm]
  constructor
  · exact fun found => ⟨List.mem_of_find?_eq_some found, by simpa using List.find?_some found⟩
  · rintro ⟨mem, rfl⟩
    exact find?_of_nodup listed.once mem

/-- A page is given where the table is there and the page fits. -/
lemma list_page (pos : 1 ≤ size) (k : Nat) (page : Page Named) :
    s.list kind size (k * size) = .ok page ↔
    (s.Offers [kind.table] ∧ fitsColumn size = true ∧ fitsColumn (k * size) = true) ∧
      page =
        { items := slice size (k * size) (Library.alphabetical (s.library.names kind))
          total := (s.library.names kind).rows.length
          limit := size
          offset := k * size } := by
  have limit : pageLimit (size : Int) = size := if_pos (by omega)
  have offset : pageOffset (k * size : Int) = k * size := max_eq_left (by positivity)
  have looked : s.list kind size (k * size) = .ok page ↔ (s.Offers [kind.table] ∧
      ∀ n ∈ [pageLimit size, pageOffset (k * size)], fitsColumn n = true) ∧ _ := look_eq_ok
  rw [looked, limit, offset]
  simp only [List.mem_cons, List.not_mem_nil, or_false, forall_eq_or_imp, forall_eq]

/-- The pages of one size make up a listing from its beginning. -/
lemma Listed.listing (pos : 1 ≤ size) (n : Nat) :
    let names := Library.alphabetical (s.library.names kind)
    ((∃ pages, s.listing kind size n = .ok pages) ↔
      ∀ k < n, s.Offers [kind.table] ∧ fitsColumn size = true ∧ fitsColumn (k * size) = true) ∧
    ∀ pages, s.listing kind size n = .ok pages →
      pages.flatMap Page.items = names.take (n * size) ∧
        ∀ page ∈ pages, page.total = names.length := by
  intro names
  have given := mapM_eq_ok (@list_page s kind size pos) (List.range n)
  constructor
  · simp only [Session.listing, given, List.mem_range, exists_and_left, exists_eq, and_true]
  · intro pages ok
    obtain ⟨-, rfl⟩ := (given pages).1 ok
    refine ⟨?_, List.forall_mem_map.2 fun k _ => ?_⟩
    · rw [List.flatMap_map, ← flatMap_slice]
    · rw [(Library.alphabetical_perm _).length_eq]

/-- The books that a session finds carry names that it sees. -/
lemma search_carried {f : Filter} {page : Page Book} (ok : s.search f = .ok page) :
    ∀ book ∈ page.items, s.library.Carries book := by
  obtain ⟨lib, opened, ok⟩ := bind_eq_ok.1 ok
  obtain ⟨-, rfl⟩ := opened_eq_ok.1 (Library.during_eq_ok.1 opened)
  exact Library.search_carried ok

/-- A book that is looked up carries names of the library. -/
lemma getBook_carried {id : String} {book : Book} (ok : s.getBook id = .ok (some book)) :
    s.library.Carries book := by
  obtain ⟨lib, opened, ok⟩ := bind_eq_ok.1 ok
  obtain ⟨-, rfl⟩ := opened_eq_ok.1 (Library.during_eq_ok.1 opened)
  exact Library.getBook_carried ok

end Session

/-- Numbers fit a column as long as the last one does that was given out. -/
lemma Library.Regular.fits {lib : Library} {kind : Kind} (regular : lib.Regular)
    (last : fitsColumn (lib.names kind).lastId = true) :
    ∀ r ∈ (lib.names kind).rows, fitsColumn r.id = true := by
  intro r mem
  have above := (regular.positive kind).ids r mem
  have below := (regular.intact.sound kind).id_le r mem
  simp only [fitsColumn, Bool.and_eq_true, decide_eq_true_eq] at last ⊢
  omega

namespace Workspace

variable {catalog : Nat} {p : Place}

/-- Whatever has happened, the names of a kind have one listing. Its pages of any size are given as
far as the table is there and they fit, and make it up from its beginning, each knowing how long it
is. A number that fits is given the name that it has in the listing, and no name if it does not
occur there; every number that occurs fits unless the last one given out does not. The books that
are found or looked up carry no names but those of the listing. -/
theorem listings_run (happenings : List Happening)
    (placed : (run happenings).place? catalog = some p) (kind : Kind) :
    ∃ names, p.session.Listed kind names ∧
      (∀ size n, 1 ≤ size →
        ((∃ pages, p.session.listing kind size n = .ok pages) ↔ ∀ k < n,
          p.session.Offers [kind.table] ∧ fitsColumn size = true ∧ fitsColumn (k * size) = true) ∧
        ∀ pages, p.session.listing kind size n = .ok pages →
          pages.flatMap Page.items = names.take (n * size) ∧
            (names.length ≤ n * size → pages.flatMap Page.items = names) ∧
            ∀ page ∈ pages, page.total = names.length) ∧
      (∀ id r, p.session.load kind id = .ok (some r) ↔
        (p.session.Offers [kind.table] ∧ fitsColumn id = true) ∧ r ∈ names ∧ r.id = id) ∧
      (fitsColumn (p.session.library.names kind).lastId = true →
        ∀ r ∈ names, fitsColumn r.id = true) ∧
      (∀ f page, p.session.search f = .ok page → ∀ book ∈ page.items, book.carried kind ⊆ names) ∧
      ∀ id book, p.session.getBook id = .ok (some book) → book.carried kind ⊆ names := by
  have regular : p.session.Regular := (regular_run happenings).session placed
  have listed := regular.listed kind
  have tabled : ∀ r, r ∈ Library.alphabetical (p.session.library.names kind) ↔
      r ∈ (p.session.library.names kind).rows := fun r => listed.all.mem_iff
  refine ⟨_, listed, fun size n pos => ?_, fun id r => listed.load_eq_ok, fun last r mem => ?_,
    fun f page found book mem r own => ?_, fun id book found r own => ?_⟩
  · obtain ⟨given, pages⟩ := @Session.Listed.listing p.session kind size pos n
    refine ⟨given, fun pages' ok => ?_⟩
    obtain ⟨items, total⟩ := pages pages' ok
    exact ⟨items, fun enough => items.trans (List.take_of_length_le enough), total⟩
  · exact regular.library.fits last r ((tabled r).1 mem)
  · exact (tabled r).2 (Session.search_carried found book mem kind own)
  · exact (tabled r).2 (Session.getBook_carried found kind own)

/-- A library in memory with one book by three authors, two of whose names differ in their case. -/
def twoCases : List Happening :=
  [.connect true, .openCatalog 0 defaultThreshold,
    .act 0 (.insert "2024-01-01T00:00:00" defaultInterval
      [{ id := "b", title := some "T", authors := some [some "bob", some "ann", some "Ann"] }])]

/-- Three names make up two pages of two names, and each is given for its number. -/
theorem two_cases_listed :
    ∃ p pages, (run twoCases).place? 0 = some p ∧ 1 ≤ 2 ∧
      p.session.listing .authors 2 2 = .ok pages ∧
      (pages.flatMap Page.items).Perm [⟨1, "bob"⟩, ⟨2, "ann"⟩, ⟨3, "Ann"⟩] ∧
      (∀ page ∈ pages, page.total = 3) ∧ p.session.load .authors 3 = .ok (some ⟨3, "Ann"⟩) := by
  obtain ⟨p, placed, state⟩ := Option.map_eq_some_iff.1
    (show ((run twoCases).place? 0).map
      (fun p => (p.session.isOpen, p.session.library.hasTable .authors,
      (p.session.library.names .authors).rows)) =
      some (true, true, [⟨1, "bob"⟩, ⟨2, "ann"⟩, ⟨3, "Ann"⟩]) by
        decide +kernel)
  simp only [Prod.mk.injEq] at state
  obtain ⟨opened, table, rows⟩ := state
  have offers : p.session.Offers [Kind.authors.table] := ⟨opened, List.forall_mem_singleton.2 table⟩
  obtain ⟨names, ⟨all, -, -⟩, pages, load, -⟩ := listings_run twoCases placed .authors
  rw [rows] at all
  obtain ⟨given, tiled⟩ := pages 2 2 (by decide)
  obtain ⟨pages, ok⟩ := given.2 fun k few => ⟨offers, by interval_cases k <;> decide⟩
  obtain ⟨-, whole, total⟩ := tiled pages ok
  have three : names.length = 3 := all.length_eq
  rw [three] at whole total
  refine ⟨p, pages, placed, by decide, ok, ?_, total, (load 3 _).2 ⟨⟨offers, by decide⟩, ?_, rfl⟩⟩
  · rw [whole (by decide)]
    exact all
  · exact all.mem_iff.2 (by decide)

end Workspace

end BookCatalog
