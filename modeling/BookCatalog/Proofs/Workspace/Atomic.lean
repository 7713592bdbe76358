import BookCatalog.Library.Workspace
import BookCatalog.Proofs.Session.Steps

/-!
# Calls take effect as a whole or not at all

However many catalogs and connections there are to a library: a call that fails leaves everything
that is committed as it was, and no transaction open (`Workspace.writes_all_or_nothing`). The
central notions:

* `Workspace.call`: one call of a catalog, with its place looked up before and the workspace updated
  after.
* `Workspace.tables?`: the tables as a catalog sees them.
* `Workspace.Restored`: what a call that failed leaves. A catalog sees other tables than before only
  if its connection had a transaction open, whose changes are undone as well.
-/

namespace BookCatalog.Workspace

variable {w w' : Workspace} {catalog : Nat} {p : Place} {s : Session}

/-- One call of a catalog: the workspace after it, and the answer; none if there is no such
catalog. -/
def call {α : Type} (w : Workspace) (catalog : Nat) (f : Session → Surroundings → Session × α) :
    Option (Workspace × α) :=
  (w.place? catalog).map fun p =>
    (w.update p (f p.session p.around).1, (f p.session p.around).2)

/-- The tables as a catalog sees them. -/
def tables? (w : Workspace) (catalog : Nat) : Option Library :=
  (w.place? catalog).map (·.session.library)

def connectionOf? (w : Workspace) (catalog : Nat) : Option Nat :=
  w.catalogs[catalog]?.map Catalog.connection

/-- What is left after a call of a catalog failed: everything that is committed, all other
connections, and no open transaction. The catalogs see the tables that they saw before, those on the
same connection the ones that are committed. -/
structure Restored (w : Workspace) (p : Place) (w' : Workspace) : Prop where
  holdings : w'.holdings = w.holdings
  connections : ∀ i, i ≠ p.connection → w'.connections[i]? = w.connections[i]?
  settled : ∀ conn, w'.connections[p.connection]? = some conn → conn.draft = none
  committed : ∀ c, w.connectionOf? c = some p.connection → w'.tables? c = some p.session.content
  tables : ∀ c, p.session.draft = none ∨ w.connectionOf? c ≠ some p.connection →
    w'.tables? c = w.tables? c

/-! ## Places -/

/-- A place is put together from a catalog, its connection and its library. -/
lemma place?_eq_some (placed : w.place? catalog = some p) :
    ∃ cat conn holding, w.catalogs[catalog]? = some cat ∧
      w.connections[cat.connection]? = some conn ∧ w.holdings[conn.holding]? = some holding ∧
      p.catalog = catalog ∧ p.connection = cat.connection ∧ p.holding = conn.holding ∧
      p.session =
        { content := holding.content
          draft := conn.draft
          isOpen := conn.isOpen
          settings := conn.settings
          threshold := cat.threshold
          freshness := cat.freshness } := by
  simp only [place?, Option.bind_eq_bind, Option.bind_eq_some_iff, Option.pure_def,
    Option.some.injEq] at placed
  obtain ⟨cat, hcat, conn, hconn, holding, hholding, rfl⟩ := placed
  exact ⟨cat, conn, holding, hcat, hconn, hholding, rfl, rfl, rfl, rfl⟩

/-- What a catalog sees is what its connection has changed, or else what is committed. -/
lemma tables?_eq (w : Workspace) (catalog : Nat) :
    w.tables? catalog =
      w.catalogs[catalog]?.bind fun cat =>
        w.connections[cat.connection]?.bind fun conn =>
          w.holdings[conn.holding]?.map fun holding => conn.draft.getD holding.content := by
  unfold tables? place?
  cases w.catalogs[catalog]? with
  | none => rfl
  | some cat =>
    simp only [Option.bind_eq_bind, Option.bind_some]
    cases w.connections[cat.connection]? with
    | none => rfl
    | some conn =>
      simp only [Option.bind_some]
      cases w.holdings[conn.holding]? with
      | none => rfl
      | some holding => rfl

/-! ## Updates -/

/-- A session that has kept the content of its library leaves the libraries as they are. -/
lemma update_holdings (placed : w.place? catalog = some p)
    (content : s.content = p.session.content) :
    (w.update p s).holdings = w.holdings := by
  obtain ⟨cat, conn, holding, -, -, held, -, -, at', session⟩ := place?_eq_some placed
  have same : s.content = holding.content := by rw [content, session]
  refine List.ext_getElem? fun i => ?_
  simp only [update, List.getElem?_modify, at', same]
  by_cases e : conn.holding = i
  · subst e
    rw [held]
    simp
  · simp [e]

/-- A call over one connection leaves the others as they are. -/
lemma connections_update_of_ne (w : Workspace) (p : Place) (s : Session) {i : Nat}
    (ne : i ≠ p.connection) : (w.update p s).connections[i]? = w.connections[i]? := by
  simp [update, Ne.symm ne]

/-- After a call its connection is as the session is. -/
lemma connections_update_self {conn : Connection} (own : w.connections[p.connection]? = some conn)
    (s : Session) :
    (w.update p s).connections[p.connection]? =
      some { conn with draft := s.draft, isOpen := s.isOpen, settings := s.settings } := by
  simp [update, own]

/-- An update leaves each catalog on its connection. -/
lemma catalogs_update (w : Workspace) (p : Place) (s : Session) (c : Nat) :
    ∃ freshness : Catalog → Freshness, (w.update p s).catalogs[c]? =
      w.catalogs[c]?.map fun cat => { cat with freshness := freshness cat } := by
  by_cases e : p.catalog = c
  · exact ⟨fun _ => s.freshness, by simp [update, e]⟩
  · exact ⟨Catalog.freshness, by simp [update, e]⟩

/-- What the catalogs see after an update that left the libraries as they were. -/
lemma tables?_update (holdings : (w.update p s).holdings = w.holdings) (c : Nat) :
    (w.update p s).tables? c =
      w.catalogs[c]?.bind fun cat =>
        w.connections[cat.connection]?.bind fun conn =>
          w.holdings[conn.holding]?.map fun holding =>
            (if cat.connection = p.connection then s.draft else conn.draft).getD
              holding.content := by
  obtain ⟨freshness, catalogs⟩ := catalogs_update w p s c
  rw [tables?_eq, holdings, catalogs]
  cases w.catalogs[c]? with
  | none => rfl
  | some cat =>
    simp only [Option.map_some, Option.bind_some]
    by_cases own : cat.connection = p.connection
    · simp only [own, if_true]
      cases found : w.connections[p.connection]? with
      | none => simp [update, found]
      | some conn =>
        rw [connections_update_self found]
        rfl
    · simp only [connections_update_of_ne w p s own, own, if_false]

/-- A session that has kept the content of its library and has no transaction open restores the
workspace. -/
lemma update_restored (placed : w.place? catalog = some p) (content : s.content = p.session.content)
    (settled : s.draft = none) : w.Restored p (w.update p s) := by
  have holdings := update_holdings placed content
  obtain ⟨cat, conn, holding, _, own, held, _, connection, _, session⟩ := place?_eq_some placed
  rw [← connection] at own
  refine
    { holdings := holdings
      connections := fun i ne => connections_update_of_ne w p s ne
      settled := fun conn' found => ?_
      committed := fun c on => ?_
      tables := fun c unchanged => ?_ }
  · rw [connections_update_self own] at found
    cases found
    exact settled
  · obtain ⟨cat', found, same⟩ := Option.map_eq_some_iff.1 on
    rw [tables?_update holdings, found]
    simp only [Option.bind_some, same, own, held, settled, if_true, Option.map_some, session,
      Option.getD_none]
  · rw [tables?_update holdings, tables?_eq]
    cases found : w.catalogs[c]? with
    | none => rfl
    | some cat' =>
      simp only [Option.bind_some]
      by_cases same : cat'.connection = p.connection
      · have on : w.connectionOf? c = some p.connection := by
          rw [connectionOf?, found, Option.map_some, same]
        -- the connection that was rolled back had nothing to undo
        have before : conn.draft = none := by
          have none := unchanged.resolve_right fun off => off on
          rwa [session] at none
        simp only [same, own, if_true, Option.bind_some, settled, before]
      · simp only [same, if_false]

/-! ## Calls -/

/-- A call of a catalog updates the workspace at its place. -/
lemma call_eq_some {α : Type} {f : Session → Surroundings → Session × α} {answer : α}
    (placed : w.place? catalog = some p) (called : w.call catalog f = some (w', answer)) :
    w' = w.update p (f p.session p.around).1 ∧ answer = (f p.session p.around).2 := by
  rw [call, placed] at called
  cases called
  exact ⟨rfl, rfl⟩

/-- After a call the catalog is in the same place, with the session that the call has left. -/
lemma place?_update (placed : w.place? catalog = some p) (s : Session) :
    ∃ p', (w.update p s).place? catalog = some p' ∧
      p'.session = { s with threshold := p.session.threshold } := by
  obtain ⟨cat, conn, holding, found, own, held, at1, at2, at3, session⟩ := place?_eq_some placed
  have catalogs : (w.update p s).catalogs[catalog]? =
      some { cat with freshness := s.freshness } := by
    simp [update, at1, found]
  have connections : (w.update p s).connections[cat.connection]? =
      some { conn with draft := s.draft, isOpen := s.isOpen, settings := s.settings } := by
    simp [update, at2, own]
  have holdings : (w.update p s).holdings[conn.holding]? =
      some { holding with content := s.content } := by
    simp [update, at3, held]
  simp only [place?, catalogs, connections, holdings, Option.bind_eq_bind, Option.bind_some]
  exact ⟨_, rfl, by rw [session]⟩

/-- A session that does not change what its catalog knows about the index leaves the catalogs as
they are. -/
lemma update_catalogs (placed : w.place? catalog = some p)
    (freshness : s.freshness = p.session.freshness) : (w.update p s).catalogs = w.catalogs := by
  obtain ⟨cat, conn, holding, found, -, -, at1, -, -, session⟩ := place?_eq_some placed
  have same : s.freshness = cat.freshness := by rw [freshness, session]
  refine List.ext_getElem? fun i => ?_
  simp only [update, List.getElem?_modify, at1, same]
  by_cases e : catalog = i
  · subst e
    rw [found]
    simp
  · simp [e]

/-- Storing a batch or emptying the library takes effect as a whole or not at all. -/
theorem writes_all_or_nothing (placed : w.place? catalog = some p)
    (opened : p.session.isOpen = true) :
    (∀ now interval batch e notices,
      w.call catalog (fun s around => s.insert around now interval batch) =
          some (w', ⟨.error e, notices⟩) →
        w.Restored p w') ∧
    (∀ e, w.call catalog Session.clear = some (w', .error e) →
      w.Restored p w' ∧ w'.catalogs = w.catalogs) ∧
    (w.call catalog Session.clear = some (w', .ok ()) →
      ∃ p', w'.place? catalog = some p' ∧ p'.session.draft = none ∧
        p'.session.freshness = .mark ∧ p'.session.content.books = [] ∧
        p'.session.content.links = [] ∧ p'.session.content.index = [] ∧
        ∀ kind, (p'.session.content.names kind).rows = []) := by
  refine ⟨fun now interval batch e notices called => ?_, fun e called => ?_, fun called => ?_⟩
  · obtain ⟨rfl, failed⟩ := call_eq_some placed called
    have inserts := p.session.insert_inserts p.around now interval batch
    rw [← failed] at inserts
    generalize (p.session.insert p.around now interval batch).1 = after at inserts ⊢
    cases inserts with
    | closed closed => rw [opened] at closed; cases closed
    | undone => exact update_restored placed rfl rfl
  · obtain ⟨rfl, failed⟩ := call_eq_some placed called
    have clears := p.session.clear_clears p.around
    rw [← failed] at clears
    generalize (p.session.clear p.around).1 = after at clears ⊢
    cases clears with
    | closed closed => rw [opened] at closed; cases closed
    | undone => exact ⟨update_restored placed rfl rfl, update_catalogs placed rfl⟩
  · obtain ⟨rfl, done⟩ := call_eq_some placed called
    have clears := p.session.clear_clears p.around
    rw [← done] at clears
    obtain ⟨p', placed', session⟩ := place?_update placed (p.session.clear p.around).1
    refine ⟨p', placed', ?_⟩
    rw [session]
    generalize (p.session.clear p.around).1 = after at clears ⊢
    cases clears with
    | emptied =>
      refine ⟨rfl, rfl, rfl, rfl, rfl, fun kind => ?_⟩
      cases kind <;> rfl

/-- One catalog on a new library in memory. -/
def single : Workspace :=
  ((({} : Workspace).connect true).1.addCatalog 0 defaultThreshold).1

/-- A book with a size that fits no column does not get into the library. -/
theorem huge_book_restored :
    ∃ p w' reply, single.place? 0 = some p ∧ p.session.isOpen = true ∧
      single.call 0 (fun s around => s.insert around "2024-01-01T00:00:00" defaultInterval
          [{ id := "b", title := some "T", series := some "S", fileSize := some (2 ^ 63) }]) =
        some (w', reply) ∧
      reply.outcome = .error .integerTooLarge ∧ single.Restored p w' := by
  obtain ⟨p, placed, opened⟩ := Option.map_eq_some_iff.1
    (show (single.place? 0).map (·.session.isOpen) = some true by decide +kernel)
  obtain ⟨⟨w', ⟨outcome, notices⟩⟩, called, failed⟩ := Option.map_eq_some_iff.1
    (show (single.call 0 fun s around => s.insert around "2024-01-01T00:00:00" defaultInterval
        [{ id := "b", title := some "T", series := some "S", fileSize := some (2 ^ 63) }]).map
      (·.2.outcome) = some (.error .integerTooLarge) by decide +kernel)
  simp only at failed
  subst failed
  have restored : single.Restored p w' :=
    (writes_all_or_nothing placed opened).1 _ _ _ _ _ called
  exact ⟨p, w', _, placed, opened, called, rfl, restored⟩

/-- A table that was dropped in the open transaction of the connection is back after a batch could
not be stored: not every table is as it was before the call. -/
theorem open_transaction_undone :
    (do
      let (begun, _) ← single.call 0 Session.begin
      let (dropped, _) ← begun.call 0 fun s around => s.drop around "series"
      let (after, reply) ← dropped.call 0 fun s around =>
        s.insert around "2024-01-01T00:00:00" defaultInterval
          [{ id := "b", title := some "T", series := some "S" }]
      pure (reply.outcome, decide (after.tables? 0 = dropped.tables? 0))) =
    some (.error (.catalog (.insertBook "b") (.noSuchTable "series")), false) := by
  decide +kernel

end BookCatalog.Workspace
