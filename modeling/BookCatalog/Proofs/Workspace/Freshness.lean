import BookCatalog.Proofs.Library.Blind
import BookCatalog.Proofs.Search.Results
import BookCatalog.Proofs.Workspace.Atomic

/-!
# What catalogs know about the index

Catalogs that share a library each remember for themselves that they have emptied it. Whether they
are right depends on what the others have done since. The central notions:

* `Trace.run`: a shared library, from new on, on which connections and catalogs are opened and
  catalogs write, in any order. A trace keeps the history of what was done, the latest first.
* `knows`: a catalog has emptied the library and not stored anything after it.
* `rows`: how many rows of the index belong to a book, and `Doubled`: when these are two or more.
* `Trace.Faithful`: the workspace is as its history says. Every event keeps it
  (`Trace.Faithful.step`), so it is true of every run (`Trace.faithful_run`).
-/

namespace BookCatalog

/-! ## History -/

/-- What a catalog has done: emptied the library, or stored the books with some ids. A batch that
was refused has stored none. -/
inductive Deed where
  | emptied (catalog : Nat)
  | stored (catalog : Nat) (ids : List String)
  deriving DecidableEq, Repr

namespace Deed

def catalog : Deed → Nat
  | .emptied catalog => catalog
  | .stored catalog _ => catalog

def ids : Deed → List String
  | .emptied _ => []
  | .stored _ ids => ids

def isEmptied : Deed → Bool
  | .emptied _ => true
  | .stored _ _ => false

end Deed

namespace History

variable {id : String} {c : Nat} {ids : List String} {history : List Deed}

/-- The last that a catalog has done was to empty the library. -/
def knows (c : Nat) (history : List Deed) : Bool :=
  history.find? (·.catalog = c) = some (.emptied c)

/-- What was done since the library was last emptied. -/
def since (history : List Deed) : List Deed :=
  history.takeWhile fun deed => !deed.isEmptied

/-- A book was stored since the library was last emptied. -/
def Holds (id : String) (history : List Deed) : Prop :=
  ∃ deed ∈ since history, id ∈ deed.ids

def rows (id : String) : List Deed → Nat
  | [] => 0
  | .emptied _ :: _ => 0
  | .stored c ids :: before => rowsAfter (knows c before) (rows id before) (ids.count id)

/-- A catalog that had emptied the library has stored a book that another one had stored in between,
and nobody has stored it again. -/
inductive Doubled (id : String) : List Deed → Prop where
  | blind {c ids before} : knows c before = true → Holds id before → ids.count id = 1 →
    Doubled id (.stored c ids :: before)
  | later {c ids before} : id ∉ ids → Doubled id before → Doubled id (.stored c ids :: before)

/-- Who has just emptied the library knows that the index is empty. -/
lemma knows_emptied (c : Nat) (history : List Deed) : knows c (.emptied c :: history) = true := by
  simp [knows, Deed.catalog]

/-- Who has just stored something does not. -/
lemma knows_stored (c : Nat) (ids : List String) (history : List Deed) :
    knows c (.stored c ids :: history) = false := by
  simp [knows, Deed.catalog]

/-- What a catalog knows does not depend on what others do. -/
lemma knows_cons_of_ne {deed : Deed} (other : deed.catalog ≠ c) :
    knows c (deed :: history) = knows c history := by
  simp [knows, other]

/-- Who knows the library to be empty has done nothing since it was last emptied. -/
lemma catalog_ne_of_knows (known : knows c history = true) :
    ∀ deed ∈ since history, deed.catalog ≠ c := by
  induction history with
  | nil => simp [since]
  | cons deed before ih =>
    cases deed with
    | emptied => simp [since, Deed.isEmptied]
    | stored c' ids =>
      have other : (Deed.stored c' ids).catalog ≠ c := by
        rintro rfl
        cases (knows_stored c' ids before).symm.trans known
      rw [knows_cons_of_ne other] at known
      simpa [since, Deed.isEmptied, Deed.catalog] using ⟨other, ih known⟩

/-- A library holds what was stored last, and what it held before. -/
lemma holds_stored : Holds id (.stored c ids :: history) ↔ id ∈ ids ∨ Holds id history := by
  simp [Holds, since, Deed.isEmptied, Deed.ids]

/-- A library that was emptied holds nothing. -/
lemma not_holds_emptied : ¬ Holds id (.emptied c :: history) := by
  simp [Holds, since, Deed.isEmptied]

/-- A book has rows exactly if it was stored since the library was last emptied. -/
lemma rows_pos : 0 < rows id history ↔ Holds id history := by
  induction history with
  | nil => simp [rows, Holds, since]
  | cons deed before ih =>
    cases deed with
    | emptied => simp [rows, not_holds_emptied]
    | stored c ids =>
      rw [holds_stored, ← List.count_pos_iff, rows, rowsAfter.eq_def]
      split
      case h_1 none => simp [none, ih]
      case h_2 one => split <;> simp [one]
      case h_3 more => simp [more]

/-- When the index holds more than one row of a book. -/
theorem two_le_rows : 2 ≤ rows id history ↔ Doubled id history := by
  induction history with
  | nil =>
    refine iff_of_false (by simp [rows]) nofun
  | cons deed before ih =>
    cases deed with
    | emptied => exact iff_of_false (by simp [rows]) nofun
    | stored c ids =>
      rw [rows, rowsAfter.eq_def]
      -- the batch has the book not at all, once, or more often
      split
      case h_1 none =>
        have unmet : id ∉ ids := List.count_eq_zero.1 none
        rw [ih]
        refine ⟨.later unmet, ?_⟩
        rintro (⟨_, _, one⟩ | ⟨_, doubled⟩)
        · omega
        · exact doubled
      case h_2 one =>
        have met : id ∈ ids := List.count_pos_iff.1 (by omega)
        constructor
        · intro two
          split at two
          case isTrue known => exact .blind known (rows_pos.1 (by omega)) one
          case isFalse => omega
        · rintro (⟨known, holds, _⟩ | ⟨unmet, _⟩)
          · have := rows_pos.2 holds
            rw [if_pos known]
            omega
          · exact absurd met unmet
      case h_3 more =>
        refine iff_of_false (by omega) ?_
        rintro (⟨_, _, one⟩ | ⟨unmet, _⟩)
        · omega
        · exact unmet (List.count_pos_iff.1 (by omega))

end History

open History

/-! ## Runs -/

/-- What can happen to a shared library: one more connection or catalog is opened, or a catalog
writes. -/
inductive Event where
  | connect
  | openCatalog (connection : Nat) (threshold : Int)
  | insert (catalog : Nat) (now : String) (interval : Nat) (batch : List Submission)
  | clear (catalog : Nat)

/-- A workspace, and what was done in it, the latest first. -/
structure Trace where
  workspace : Workspace
  history : List Deed := []

namespace Trace

/-- One connection to a new library, in memory or in a file. -/
def start (inMemory : Bool) : Trace :=
  { workspace := (({} : Workspace).connect inMemory).1 }

/-- The deed of a catalog that was to store a batch. -/
def deedOf (catalog : Nat) (batch : List Submission) : Except Failure Unit → Deed
  | .ok _ => .stored catalog (batch.map (·.id))
  | .error _ => .stored catalog []

/-- What has been done after a catalog was to empty the library. -/
def clearedBy (catalog : Nat) (history : List Deed) : Except Failure Unit → List Deed
  | .ok _ => .emptied catalog :: history
  | .error _ => history

/-- One event. Nothing happens if it is about a catalog that is not there. -/
def step (t : Trace) : Event → Trace
  | .connect => { t with workspace := (t.workspace.connect false).1 }
  | .openCatalog connection threshold =>
    { t with workspace := (t.workspace.addCatalog connection threshold).1 }
  | .insert catalog now interval batch =>
    match t.workspace.call catalog fun s around => s.insert around now interval batch with
    | none => t
    | some (w, reply) => ⟨w, deedOf catalog batch reply.outcome :: t.history⟩
  | .clear catalog =>
    match t.workspace.call catalog Session.clear with
    | none => t
    | some (w, outcome) => ⟨w, clearedBy catalog t.history outcome⟩

def run (t : Trace) (events : List Event) : Trace :=
  events.foldl step t

/-- What a catalog sees, and what it knows, is as the history says. -/
structure Told (s : Session) (c : Nat) (history : List Deed) : Prop where
  settled : s.draft = none
  nodup : s.content.bookIds.Nodup
  rows : ∀ id, s.content.indexIds.count id = rows id history
  known : s.freshness.known = knows c history

/-- There is one library, no transaction is open, and everything is as the history says. -/
structure Faithful (t : Trace) : Prop where
  held : ∃ holding, t.workspace.holdings = [holding] ∧ holding.content.bookIds.Nodup ∧
    ∀ id, holding.content.indexIds.count id = rows id t.history
  settled : ∀ conn ∈ t.workspace.connections, conn.holding = 0 ∧ conn.draft = none
  known : ∀ c cat, t.workspace.catalogs[c]? = some cat → cat.freshness.known = knows c t.history
  deeds : ∀ deed ∈ t.history, deed.catalog < t.workspace.catalogs.length

variable {t : Trace} {c : Nat} {p : Workspace.Place} {s s' : Session} {history history' : List Deed}
  {around : Surroundings} {now : String} {interval : Nat} {batch : List Submission}
  {outcome : Except Failure Unit}

/-! ## One call -/

/-- Storing a batch adds a deed to the history. -/
lemma Told.inserts (told : Told s c history)
    (inserts : s.Inserts around now interval batch s' outcome) :
    Told s' c (deedOf c batch outcome :: history) := by
  have library := Session.library_of_settled told.settled
  have forgotten : ∀ ids, false = knows c (.stored c ids :: history) :=
    fun ids => (knows_stored c ids history).symm
  have same : ∀ id, s.content.indexIds.count id = History.rows id (.stored c [] :: history) :=
    told.rows
  obtain ⟨settled, nodup, counts, known⟩ := told
  cases inserts with
  | nothing empty =>
    subst empty
    exact ⟨settled, nodup, same, forgotten []⟩
  | closed => exact ⟨settled, nodup, same, forgotten []⟩
  | undone => exact ⟨rfl, nodup, same, forgotten []⟩
  | stored _ ok =>
    rw [Session.batchResult, library] at ok
    rw [Session.batchResult, library]
    refine ⟨rfl, Library.nodup_bookIds_insertRest nodup ok, fun id => ?_, forgotten _⟩
    rw [Library.count_indexIds_insertAll ok, counts, known]
    rfl

/-- Emptying the library leaves no rows. -/
lemma Told.clears (told : Told s c history) (clears : s.Clears around s' outcome) :
    Told s' c (clearedBy c history outcome) := by
  cases clears with
  | closed => exact told
  | emptied =>
    exact ⟨rfl, List.nodup_nil, fun id => rfl, (knows_emptied c history).symm⟩
  | undone => exact ⟨rfl, told.nodup, told.rows, told.known⟩

/-! ## One event -/

/-- Every catalog sees and knows what the history says. -/
lemma Faithful.told (faithful : t.Faithful) (placed : t.workspace.place? c = some p) :
    Told p.session c t.history := by
  obtain ⟨cat, conn, holding, found, own, held, -, -, -, session⟩ := Workspace.place?_eq_some placed
  obtain ⟨only, holdings, nodup, rows⟩ := faithful.held
  obtain ⟨first, settled⟩ := faithful.settled conn (List.mem_of_getElem? own)
  rw [holdings, first] at held
  cases held
  rw [session]
  exact ⟨settled, nodup, rows, faithful.known c cat found⟩

/-- A call of a catalog that changes what it sees as told keeps a trace faithful, if only this
catalog has done something new. -/
lemma Faithful.update (faithful : t.Faithful) (placed : t.workspace.place? c = some p)
    (told : Told s c history') (others : ∀ c', c' ≠ c → knows c' history' = knows c' t.history)
    (deeds : ∀ deed ∈ history', deed ∈ t.history ∨ deed.catalog = c) :
    Faithful ⟨t.workspace.update p s, history'⟩ := by
  obtain ⟨cat, conn, holding, found, own, held, at1, at2, at3, session⟩ :=
    Workspace.place?_eq_some placed
  obtain ⟨only, holdings, _⟩ := faithful.held
  -- there is one library, so that the connection is to this one
  have first : conn.holding = 0 := (faithful.settled conn (List.mem_of_getElem? own)).1
  constructor
  case held =>
    refine ⟨{ only with content := s.content }, ?_, told.nodup, told.rows⟩
    simp [Workspace.update, holdings, at3, first]
  case settled =>
    intro conn' mem
    obtain ⟨i, at'⟩ := List.mem_iff_getElem?.1 mem
    simp only [Workspace.update, List.getElem?_modify, Option.map_eq_map,
      Option.map_eq_some_iff] at at'
    obtain ⟨old, found', rfl⟩ := at'
    obtain ⟨holding', draft⟩ := faithful.settled old (List.mem_of_getElem? found')
    split
    · exact ⟨holding', told.settled⟩
    · exact ⟨holding', draft⟩
  case known =>
    intro c' cat' found'
    simp only [Workspace.update, List.getElem?_modify, Option.map_eq_map,
      Option.map_eq_some_iff, at1] at found'
    obtain ⟨old, found', rfl⟩ := found'
    by_cases same : c = c'
    · subst same
      simpa using told.known
    · rw [if_neg same, others c' (Ne.symm same)]
      exact faithful.known c' old found'
  case deeds =>
    intro deed mem
    have length : (t.workspace.update p s).catalogs.length = t.workspace.catalogs.length :=
      List.length_modify ..
    rw [length]
    rcases deeds deed mem with old | new
    · exact faithful.deeds deed old
    · rw [new]
      exact (List.getElem?_eq_some_iff.1 found).1

/-- A deed is that of the catalog that was to store the batch. -/
lemma catalog_deedOf (outcome : Except Failure Unit) : (deedOf c batch outcome).catalog = c := by
  cases outcome <;> rfl

/-- A connection more keeps a trace faithful. -/
lemma Faithful.connect (faithful : t.Faithful) : (t.step .connect).Faithful := by
  obtain ⟨only, holdings, _⟩ := faithful.held
  -- the library is there already, and the new connection has no transaction
  have more : (t.workspace.connect false).1 = (t.workspace.addConnection 0 .wal).1 := by
    simp [Workspace.connect, holdings]
  rw [Trace.step, more]
  refine ⟨faithful.held, fun conn mem => ?_, faithful.known, faithful.deeds⟩
  rcases List.mem_append.1 mem with old | new
  · exact faithful.settled conn old
  · cases List.mem_singleton.1 new
    exact ⟨rfl, rfl⟩

/-- A catalog more keeps a trace faithful. -/
lemma Faithful.openCatalog (faithful : t.Faithful) (connection : Nat) (threshold : Int) :
    (t.step (.openCatalog connection threshold)).Faithful := by
  refine ⟨faithful.held, faithful.settled, fun c cat found => ?_, fun deed mem => ?_⟩
  · rw [Trace.step, Workspace.addCatalog, List.getElem?_append] at found
    split at found
    case isTrue => exact faithful.known c cat found
    case isFalse late =>
      -- the new catalog has not done anything yet
      have idle : t.history.find? (·.catalog = c) = none := by
        simp only [List.find?_eq_none, decide_eq_true_eq]
        intro deed mem
        exact (lt_of_lt_of_le (faithful.deeds deed mem) (not_lt.1 late)).ne
      cases List.mem_singleton.1 (List.mem_of_getElem? found)
      rw [Trace.step, knows, idle]
      rfl
  · exact (faithful.deeds deed mem).trans_le (by simp [Trace.step, Workspace.addCatalog])

/-- Storing a batch keeps a trace faithful. -/
lemma Faithful.insert (faithful : t.Faithful) (c : Nat) (now : String) (interval : Nat)
    (batch : List Submission) : (t.step (.insert c now interval batch)).Faithful := by
  rw [Trace.step]
  cases placed : t.workspace.place? c with
  | none =>
    rw [Workspace.call, placed]
    exact faithful
  | some p =>
    rw [Workspace.call, placed]
    have inserts := p.session.insert_inserts p.around now interval batch
    refine faithful.update placed ((faithful.told placed).inserts inserts) ?_ ?_
    · exact fun c' other => knows_cons_of_ne ((catalog_deedOf _).trans_ne other.symm)
    · intro deed mem
      rcases List.mem_cons.1 mem with rfl | old
      · exact .inr (catalog_deedOf _)
      · exact .inl old

/-- Emptying the library keeps a trace faithful. -/
lemma Faithful.clear (faithful : t.Faithful) (c : Nat) : (t.step (.clear c)).Faithful := by
  rw [Trace.step]
  cases placed : t.workspace.place? c with
  | none =>
    rw [Workspace.call, placed]
    exact faithful
  | some p =>
    rw [Workspace.call, placed]
    have clears := p.session.clear_clears p.around
    refine faithful.update placed ((faithful.told placed).clears clears) ?_ ?_
    · intro c' other
      cases (p.session.clear p.around).2 with
      | error => rfl
      | ok => exact knows_cons_of_ne other.symm
    · intro deed mem
      generalize (p.session.clear p.around).2 = outcome at mem
      cases outcome with
      | error => exact .inl mem
      | ok =>
        rcases List.mem_cons.1 mem with rfl | old
        · exact .inr rfl
        · exact .inl old

/-- Every event keeps a trace faithful. -/
theorem Faithful.step (faithful : t.Faithful) (event : Event) : (t.step event).Faithful := by
  cases event with
  | connect => exact faithful.connect
  | openCatalog connection threshold => exact faithful.openCatalog connection threshold
  | insert c now interval batch => exact faithful.insert c now interval batch
  | clear c => exact faithful.clear c

/-- A new library is as its empty history says. -/
lemma faithful_start (inMemory : Bool) : (start inMemory).Faithful := by
  have held : (start inMemory).workspace.holdings = [⟨Library.fresh, inMemory⟩] := by
    cases inMemory <;> rfl
  have none : (start inMemory).workspace.catalogs = [] := by cases inMemory <;> rfl
  refine ⟨⟨_, held, ?_⟩, fun conn mem => ?_, fun c cat found => ?_, nofun⟩
  · rw [Library.fresh_eq]
    exact ⟨List.nodup_nil, fun id => rfl⟩
  · cases inMemory <;>
      · cases List.mem_singleton.1 mem
        exact ⟨rfl, rfl⟩
  · rw [none] at found
    cases found

/-- After any events everything is as the history says. -/
theorem faithful_run (inMemory : Bool) (events : List Event) :
    ((start inMemory).run events).Faithful := by
  suffices all : ∀ t : Trace, t.Faithful → (t.run events).Faithful from
    all _ (faithful_start inMemory)
  induction events with
  | nil => exact fun _ faithful => faithful
  | cons event rest ih => exact fun t faithful => ih _ (faithful.step event)

/-! ## The index after a run -/

/-- The index has rows if books were stored since the library was last emptied. -/
lemma Told.index_ne_nil (told : Told s c history) :
    s.content.index ≠ [] ↔ ∃ deed ∈ since history, deed.ids ≠ [] := by
  have held : ∀ id, id ∈ s.content.indexIds ↔ Holds id history := fun id => by
    rw [← List.count_pos_iff, told.rows, rows_pos]
  constructor
  · intro some
    obtain ⟨row, mem⟩ := List.exists_mem_of_ne_nil _ some
    obtain ⟨deed, mem, stored⟩ := (held row.bookId).1 (List.mem_map_of_mem mem)
    exact ⟨deed, mem, List.ne_nil_of_mem stored⟩
  · rintro ⟨deed, mem, some⟩
    obtain ⟨id, stored⟩ := List.exists_mem_of_ne_nil _ some
    obtain ⟨row, mem, -⟩ := List.mem_map.1 ((held id).2 ⟨deed, mem, stored⟩)
    exact List.ne_nil_of_mem mem

/-- A search looks at the library that the session sees. -/
lemma search_library {f : Filter} {page : Page Book} (found : s.search f = .ok page) :
    s.library.search f = .ok page := by
  obtain ⟨lib, opened, found⟩ := bind_eq_ok.1 found
  have opened := Library.during_eq_ok.1 opened
  rw [Session.opened] at opened
  split at opened
  · cases opened
    exact found
  · cases opened

/-- A book with one row in the index is listed once. -/
lemma Told.listed_once (told : Told s c history) {f : Filter} {page : Page Book}
    (found : s.search f = .ok page) {id : String} (single : ¬ Doubled id history) :
    (page.items.map (·.id)).count id ≤ 1 := by
  have found := search_library found
  rw [Session.library_of_settled told.settled] at found
  have few : s.content.indexIds.count id ≤ 1 := by
    rw [told.rows, ← Nat.lt_succ_iff, ← not_le, two_le_rows]
    exact single
  calc (page.items.map (·.id)).count id
      ≤ ((s.content.found f.plan).map (·.book.id)).count id := by
        rw [Library.search_ok_ids found]
        exact (slice_sublist _ _).count_le id
    _ ≤ max 1 (s.content.indexIds.count id) := Library.count_found_le told.nodup id
    _ ≤ 1 := max_le le_rfl few

/-- A catalog that knows the index to be empty is wrong if another one has stored books since. Two
rows of one book come from a batch that was stored blindly over it, and only such a book can be
listed twice. -/
theorem index_run (inMemory : Bool) (events : List Event)
    (placed : ((start inMemory).run events).workspace.place? c = some p) :
    let history := ((start inMemory).run events).history
    (p.session.freshness.known = true →
      (p.session.library.index ≠ [] ↔
        ∃ deed ∈ since history, deed.catalog ≠ c ∧ deed.ids ≠ [])) ∧
    (∀ id, 2 ≤ p.session.library.indexIds.count id ↔ Doubled id history) ∧
    ∀ f page, p.session.search f = .ok page → ∀ id, ¬ Doubled id history →
      (page.items.map (·.id)).count id ≤ 1 := by
  intro history
  have told := (faithful_run inMemory events).told placed
  have library := Session.library_of_settled told.settled
  refine ⟨fun marked => ?_, fun id => ?_,
    fun f page found id single => told.listed_once found single⟩
  · -- the catalog itself has done nothing since it emptied the library
    have others := catalog_ne_of_knows (told.known.symm.trans marked)
    rw [library, told.index_ne_nil]
    refine exists_congr fun deed => and_congr_right fun mem => ?_
    exact (and_iff_right (others deed mem)).symm
  · rw [library, told.rows, two_le_rows]

/-- Two catalogs, each on a connection of its own: the first one empties the library, the second one
stores a book, and the first one stores it again. -/
def overlap : List Event :=
  [.connect, .openCatalog 0 defaultThreshold, .openCatalog 1 defaultThreshold, .clear 0,
    .insert 1 "2024-01-01T00:00:00" defaultInterval [{ id := "b", title := some "Old tale" }],
    .insert 0 "2024-01-01T00:00:01" defaultInterval [{ id := "b", title := some "New tale" }]]

/-- Before it stores the book, the first catalog takes the index to be empty, which it is not; after
that the book has two rows. -/
theorem overlap_doubles :
    (∃ p, ((start false).run (overlap.take 5)).workspace.place? 0 = some p ∧
      p.session.freshness.known = true ∧ p.session.library.index ≠ []) ∧
    ∃ p, ((start false).run overlap).workspace.place? 0 = some p ∧
      2 ≤ p.session.library.indexIds.count "b" := by
  have before : ((start false).run (overlap.take 5)).history = [.stored 1 ["b"], .emptied 0] := by
    decide +kernel
  have after : ((start false).run overlap).history =
      [.stored 0 ["b"], .stored 1 ["b"], .emptied 0] := by
    decide +kernel
  have holds : Holds "b" [.stored 1 ["b"], .emptied 0] := ⟨.stored 1 ["b"], by decide, by decide⟩
  constructor
  · obtain ⟨p, placed, known⟩ := Option.map_eq_some_iff.1
      (show (((start false).run (overlap.take 5)).workspace.place? 0).map
        (·.session.freshness.known) = some true by decide +kernel)
    refine ⟨p, placed, known, ((index_run false _ placed).1 known).2 ?_⟩
    rw [before]
    exact ⟨.stored 1 ["b"], by decide, by decide, by decide⟩
  · obtain ⟨p, placed, -⟩ := Option.map_eq_some_iff.1
      (show (((start false).run overlap).workspace.place? 0).map
        (·.session.freshness.known) = some false by decide +kernel)
    refine ⟨p, placed, ((index_run false overlap placed).2.1 "b").2 ?_⟩
    rw [after]
    exact .blind (by decide) holds (by decide)

end Trace

end BookCatalog
