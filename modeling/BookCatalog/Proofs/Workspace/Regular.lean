import BookCatalog.Proofs.Session.Reads
import BookCatalog.Proofs.Workspace.Sharing

/-!
# Whatever happens in a workspace

Libraries are opened in memory and in files, with any number of connections and catalogs, and tables
may be dropped from them. Still every library that a catalog sees is regular: its tables fit
together, and the numbers of its names are positive. The central notions:

* `Workspace.run`: a workspace in which anything has happened.
* `Library.Regular`: what every step of a session keeps, of what is committed and of what is not
  (`Step.on_regular`, `Session.Regular.drop`).
* `Workspace.Regular`: what everything that happens keeps (`Workspace.Regular.after`), so that it is
  true of every run (`Workspace.regular_run`).
-/

namespace BookCatalog

/-- The numbers that a table of names has given out are positive, and so is the next one. -/
structure Dimension.Positive (d : Dimension) : Prop where
  lastId : 0 ≤ d.lastId
  ids : ∀ r ∈ d.rows, 0 < r.id

/-- Numbers that are given out later are positive too. -/
lemma Dimension.Positive.follows {d d' : Dimension} (positive : d.Positive)
    (follows : d.Follows d') :
    d'.Positive where
  lastId := positive.lastId.trans follows.lastId
  ids r mem := (follows.above r mem).elim (positive.ids r) positive.lastId.trans_lt

/-- A table that has given out no number has given out none that is not positive. -/
lemma Dimension.positive_empty : Dimension.Positive {} :=
  ⟨le_rfl, nofun⟩

/-! ## Libraries -/

namespace Library

variable {lib after : Library} {t : Table}

/-- The tables fit together, and the numbers of names are positive. -/
structure Regular (lib : Library) : Prop where
  intact : lib.Intact
  positive : ∀ kind, (lib.names kind).Positive

/-- A new library is regular. -/
lemma regular_fresh : Library.fresh.Regular where
  intact := intact_fresh
  positive kind := by
    rw [fresh_eq]
    cases kind <;> exact Dimension.positive_empty

/-- An emptied library is regular. -/
lemma Regular.emptied (regular : lib.Regular) : lib.emptied.Regular where
  intact := intact_emptied lib
  positive kind := (regular.positive kind).follows (follows_emptied lib kind)

/-- A batch that is stored keeps a library regular. -/
lemma Regular.insertAll {ctx : WriteContext} {interval : Nat} {fresh : Bool}
    {batch : List Submission} (regular : lib.Regular)
    (ok : (lib.insertAll ctx interval fresh batch).outcome = .ok ()) :
    (lib.insertAll ctx interval fresh batch).tables.Regular := by
  obtain ⟨intact, grows⟩ := insertAll_intact regular.intact ok
  exact ⟨intact, fun kind => (regular.positive kind).follows (grows kind).follows⟩

/-- A library without some of its rows stays regular if no row is left that refers to one of
them. -/
lemma Regular.prune (regular : lib.Regular)
    (names : ∀ kind, after.names kind = lib.names kind ∨ after.names kind = {})
    (books : ∀ b ∈ after.books,
      b ∈ lib.books ∧ (b.seriesId.isSome = true → after.series = lib.series) ∧
      (b.genreId.isSome = true → after.genres = lib.genres))
    (links : after.links = [] ∨
      after.links = lib.links ∧ after.books = lib.books ∧ after.authors = lib.authors) :
        after.Regular := by
  obtain ⟨intact, positive⟩ := regular
  refine ⟨⟨fun kind => ?_, fun b mem id own => ?_, fun b mem id own => ?_, ?_, ?_, ?_⟩,
    fun kind => ?_⟩
  · rcases names kind with same | empty
    · exact same ▸ intact.sound kind
    · exact .of_empty (by rw [empty])
  · obtain ⟨old, series, -⟩ := books b mem
    rw [series (by rw [Option.mem_def.1 own]; rfl)]
    exact intact.series b old id own
  · obtain ⟨old, -, genres⟩ := books b mem
    rw [genres (by rw [Option.mem_def.1 own]; rfl)]
    exact intact.genres b old id own
  · rcases links with none | ⟨same, shelf, -⟩
    · simp [none]
    · exact same ▸ shelf ▸ intact.books
  · rcases links with none | ⟨same, -, writers⟩
    · simp [none]
    · exact same ▸ writers ▸ intact.authors
  · rcases links with none | ⟨same, -⟩
    · simp [none]
    · exact same ▸ intact.linked
  · rcases names kind with same | empty
    · exact same ▸ positive kind
    · exact empty ▸ Dimension.positive_empty

/-- What the schema says of a table does not matter. -/
lemma Regular.forget (regular : lib.Regular) (t : Table) : (lib.forget t).Regular := by
  have names : ∀ kind, (lib.forget t).names kind = lib.names kind := names_eq rfl rfl rfl
  have books : (lib.forget t).books = lib.books := rfl
  exact regular.prune (fun kind => .inl (names kind))
    (fun b mem => ⟨books ▸ mem, fun _ => names .series, fun _ => names .genres⟩)
      (.inr ⟨rfl, rfl, names .authors⟩)

/-- Rows are removed only if no row of another table is left without what it refers to. -/
lemma Regular.withoutRows (regular : lib.Regular) (removed : lib.withoutRows t = .ok after) :
    (after.withoutCounter t).Regular := by
  cases t with
  | authors =>
    cases removed
    refine regular.prune (fun kind => ?_)
      (fun b mem => ⟨mem, fun _ => rfl, fun _ => rfl⟩) (.inl rfl)
    cases kind with
    | authors => exact .inr rfl
    | series => exact .inl rfl
    | genres => exact .inl rfl
  | series =>
    rw [Library.withoutRows] at removed
    split at removed
    · cases removed
    · next unreferenced =>
      cases removed
      refine regular.prune (fun kind => ?_) (fun b mem => ⟨mem, fun some => ?_, fun _ => rfl⟩)
        (.inr ⟨rfl, rfl, rfl⟩)
      · cases kind with
        | authors => exact .inl rfl
        | series => exact .inr rfl
        | genres => exact .inl rfl
      · exact absurd (List.any_eq_true.2 ⟨b, mem, some⟩) unreferenced
  | genres =>
    rw [Library.withoutRows] at removed
    split at removed
    · cases removed
    · next unreferenced =>
      cases removed
      refine regular.prune (fun kind => ?_) (fun b mem => ⟨mem, fun _ => rfl, fun some => ?_⟩)
        (.inr ⟨rfl, rfl, rfl⟩)
      · cases kind with
        | authors => exact .inl rfl
        | series => exact .inl rfl
        | genres => exact .inr rfl
      · exact absurd (List.any_eq_true.2 ⟨b, mem, some⟩) unreferenced
  | books =>
    cases removed
    exact regular.prune (fun kind => .inl (names_eq rfl rfl rfl kind))
      (fun _ mem => absurd mem List.not_mem_nil) (.inl rfl)
  | bookAuthors =>
    cases removed
    exact regular.prune (fun kind => .inl (names_eq rfl rfl rfl kind))
      (fun b mem => ⟨mem, fun _ => rfl, fun _ => rfl⟩)
      (.inl rfl)
  | booksFts =>
    cases removed
    exact regular.prune (fun kind => .inl (names_eq rfl rfl rfl kind))
      (fun b mem => ⟨mem, fun _ => rfl, fun _ => rfl⟩)
      (.inr ⟨rfl, rfl, rfl⟩)
  | schemaVersion =>
    cases removed
    exact regular.prune (fun kind => .inl (names_eq rfl rfl rfl kind))
      (fun b mem => ⟨mem, fun _ => rfl, fun _ => rfl⟩)
      (.inr ⟨rfl, rfl, rfl⟩)

/-- A table that is dropped leaves what is regular so. -/
lemma Regular.drop (regular : lib.Regular) (ok : lib.drop t = .ok after) : after.Regular := by
  obtain ⟨_, -, ok⟩ := bind_eq_ok.1 ok
  obtain ⟨rest, removed, ok⟩ := bind_eq_ok.1 ok
  cases ok
  exact (regular.withoutRows removed).forget t

end Library

/-! ## Sessions -/

namespace Session

variable {s s' : Session} {around : Surroundings} {now : String} {interval : Nat}
  {batch : List Submission}

/-- What is committed is regular, and so is what the open transaction has made of it. -/
structure Regular (s : Session) : Prop where
  content : s.content.Regular
  draft : ∀ lib ∈ s.draft, lib.Regular

/-- What a regular session sees is regular. -/
lemma Regular.library (regular : s.Regular) : s.library.Regular := by
  rw [Session.library]
  cases drafted : s.draft with
  | none => exact regular.content
  | some lib => exact regular.draft lib drafted

/-- Storing a batch keeps a session regular, also where it fails. -/
lemma Inserts.regular {outcome : Except Failure Unit}
    (inserts : s.Inserts around now interval batch s' outcome)
    (regular : s.Regular) : s'.Regular := by
  cases inserts with
  | nothing => exact ⟨regular.content, regular.draft⟩
  | closed => exact ⟨regular.content, regular.draft⟩
  | stored _ ok => exact ⟨regular.library.insertAll ok, nofun⟩
  | undone => exact ⟨regular.content, nofun⟩

/-- So does emptying the library. -/
lemma Clears.regular {outcome : Except Failure Unit} (clears : s.Clears around s' outcome)
    (regular : s.Regular) :
    s'.Regular := by
  cases clears with
  | closed => exact regular
  | emptied => exact ⟨regular.library.emptied, nofun⟩
  | undone => exact ⟨regular.content, nofun⟩

/-- So does rebuilding it. -/
lemma Rebuilds.regular {file : Option IndexFile} {outcome : Except ReindexError Imported}
    (rebuilds : s.Rebuilds around now interval file s' outcome) (regular : s.Regular) :
    s'.Regular := by
  cases rebuilds with
  | unread => exact regular
  | notCleared _ clear => exact (clears_of_eq clear).regular regular
  | notInserted _ clear inserts => exact inserts.regular ((clears_of_eq clear).regular regular)
  | rebuilt _ clear inserts => exact inserts.regular ((clears_of_eq clear).regular regular)

/-- So does beginning a transaction. -/
lemma Regular.begin (regular : s.Regular) (around : Surroundings) : (s.begin around).1.Regular := by
  rw [Session.begin]
  split
  · exact regular
  · split
    · exact regular
    · split
      · exact regular
      · refine ⟨regular.content, fun lib drafted => ?_⟩
        cases drafted
        exact regular.content

/-- So does undoing one. -/
lemma Regular.undo (regular : s.Regular) : s.undo.1.Regular := by
  rw [Session.undo]
  split
  · refine ⟨regular.content, fun lib drafted => ?_⟩
    cases drafted
  · exact regular

/-- A table that is dropped leaves what is regular so. -/
lemma Regular.drop (regular : s.Regular) (around : Surroundings) (name : String) :
    (s.drop around name).1.Regular := by
  rw [Session.drop]
  split
  · exact regular
  · next lib dropped =>
    obtain ⟨seen, opened, dropped⟩ := bind_eq_ok.1 dropped
    have after : lib.Regular := by
      rw [Library.dropNamed] at dropped
      split at dropped
      · exact ((opened_eq_ok.1 opened).2 ▸ regular.library).drop dropped
      · cases dropped
    split
    · exact regular
    · split
      · refine ⟨regular.content, fun lib' drafted => ?_⟩
        cases drafted
        exact after
      · exact ⟨after, regular.draft⟩

end Session

/-- Whatever a catalog does, its libraries stay regular. -/
theorem Step.on_regular {s : Session} (regular : s.Regular) (around : Surroundings) (step : Step) :
    (step.on s around).1.Regular := by
  cases step with
  | begin => exact regular.begin around
  | undo => exact regular.undo
  | close => exact ⟨regular.content, nofun⟩
  | insert now interval batch => exact (s.insert_inserts around now interval batch).regular regular
  | clear => exact (s.clear_clears around).regular regular
  | reindex now interval file => exact (s.reindex_rebuilds around now interval file).regular regular

/-! ## Workspaces -/

namespace Workspace

/-- Something that happens in a workspace. -/
inductive Happening where
  | connect (inMemory : Bool)
  | openCatalog (connection : Nat) (threshold : Int)
  | act (catalog : Nat) (step : Step)
  | drop (catalog : Nat) (name : String)

/-- The workspace after a call of a catalog, which changes nothing if there is no such catalog. -/
def calling (w : Workspace) (catalog : Nat) (f : Session → Surroundings → Session) : Workspace :=
  match w.place? catalog with
  | none => w
  | some p => w.update p (f p.session p.around)

def after (w : Workspace) : Happening → Workspace
  | .connect inMemory => (w.connect inMemory).1
  | .openCatalog connection threshold => (w.addCatalog connection threshold).1
  | .act catalog step => w.calling catalog fun s around => (step.on s around).1
  | .drop catalog name => w.calling catalog fun s around => (s.drop around name).1

/-- A workspace in which things have happened, one after the other, from an empty one on. -/
def run (happenings : List Happening) : Workspace :=
  happenings.foldl after {}

/-- Every library is regular, and so is what every open transaction has made of it. -/
structure Regular (w : Workspace) : Prop where
  contents : ∀ h ∈ w.holdings, h.content.Regular
  drafts : ∀ c ∈ w.connections, ∀ lib ∈ c.draft, lib.Regular

variable {w : Workspace} {catalog : Nat} {p : Place} {s : Session}

/-- Every catalog of a regular workspace has a regular session. -/
lemma Regular.session (regular : w.Regular) (placed : w.place? catalog = some p) :
    p.session.Regular := by
  obtain ⟨_, conn, holding, -, own, held, -, -, -, session⟩ := place?_eq_some placed
  rw [session]
  exact ⟨regular.contents holding (List.mem_of_getElem? held),
    regular.drafts conn (List.mem_of_getElem? own)⟩

/-- A regular session keeps a workspace regular. -/
lemma Regular.update (regular : w.Regular) (p : Place) (after : s.Regular) :
    (w.update p s).Regular := by
  constructor
  · intro holding mem
    obtain ⟨i, at_⟩ := List.mem_iff_getElem?.1 mem
    simp only [Workspace.update, List.getElem?_modify, Option.map_eq_map,
      Option.map_eq_some_iff] at at_
    obtain ⟨old, found, rfl⟩ := at_
    split
    · exact after.content
    · exact regular.contents old (List.mem_of_getElem? found)
  · intro conn mem
    obtain ⟨i, at_⟩ := List.mem_iff_getElem?.1 mem
    simp only [Workspace.update, List.getElem?_modify, Option.map_eq_map,
      Option.map_eq_some_iff] at at_
    obtain ⟨old, found, rfl⟩ := at_
    split
    · exact after.draft
    · exact regular.drafts old (List.mem_of_getElem? found)

/-- So does any call that keeps sessions regular. -/
lemma Regular.calling (regular : w.Regular) {f : Session → Surroundings → Session}
    (keeps : ∀ s around, s.Regular → (f s around).Regular) (catalog : Nat) :
    (w.calling catalog f).Regular := by
  rw [Workspace.calling]
  split
  · exact regular
  · next p placed => exact regular.update p (keeps _ _ (regular.session placed))

/-- One more connection keeps a workspace regular. -/
lemma Regular.addConnection (regular : w.Regular) (holding : Nat) (journal : Journal) :
    (w.addConnection holding journal).1.Regular := by
  refine ⟨regular.contents, fun conn mem => ?_⟩
  rcases List.mem_append.1 mem with old | new
  · exact regular.drafts conn old
  · cases List.mem_singleton.1 new
    exact nofun

/-- So does one to a new library. -/
lemma Regular.connect (regular : w.Regular) (inMemory : Bool) : (w.connect inMemory).1.Regular := by
  rw [Workspace.connect]
  split
  · have more : Regular { w with holdings := w.holdings ++ [⟨Library.fresh, true⟩] } := by
      refine ⟨fun holding mem => ?_, regular.drafts⟩
      rcases List.mem_append.1 mem with old | new
      · exact regular.contents holding old
      · cases List.mem_singleton.1 new
        exact Library.regular_fresh
    exact more.addConnection _ _
  · split
    · have first : Regular { w with holdings := [⟨Library.fresh, false⟩] } := by
        refine ⟨fun holding mem => ?_, regular.drafts⟩
        cases List.mem_singleton.1 mem
        exact Library.regular_fresh
      exact first.addConnection _ _
    · exact regular.addConnection _ _

/-- Whatever happens, the libraries stay regular. -/
lemma Regular.after (regular : w.Regular) (happening : Happening) :
    (w.after happening).Regular := by
  cases happening with
  | connect inMemory => exact regular.connect inMemory
  | openCatalog => exact ⟨regular.contents, regular.drafts⟩
  | act catalog step =>
    exact regular.calling (fun _ around regular => step.on_regular regular around) catalog
  | drop catalog name =>
    exact regular.calling (fun _ around regular => regular.drop around name) catalog

/-- Whatever has happened, a workspace is regular. -/
theorem regular_run (happenings : List Happening) : (run happenings).Regular := by
  suffices all : ∀ w : Workspace, w.Regular → (happenings.foldl after w).Regular from
    all {} ⟨nofun, nofun⟩
  induction happenings with
  | nil => exact fun _ regular => regular
  | cons happening rest ih => exact fun _ regular => ih _ (regular.after happening)

end Workspace

end BookCatalog
