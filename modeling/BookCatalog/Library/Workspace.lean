import BookCatalog.Library.Session

/-!
# Several catalogs at work

A `Workspace` holds libraries, the connections to them and the catalogs on those. Catalogs on one
connection share its transaction; connections to one library see each other's finished changes, and
while one of them writes, the others cannot. A library in memory has one connection only.
-/

namespace BookCatalog

/-- A library that connections are open to. -/
structure Holding where
  content : Library
  inMemory : Bool
  deriving DecidableEq, Repr

/-- A connection to a library. -/
structure Connection where
  holding : Nat
  draft : Option Library := none
  isOpen : Bool := true
  settings : Settings
  deriving DecidableEq, Repr

/-- A catalog on a connection. -/
structure Catalog where
  connection : Nat
  threshold : Int := defaultThreshold
  freshness : Freshness := {}
  deriving DecidableEq, Repr

/-- Libraries, connections and catalogs, each known by its position. -/
structure Workspace where
  holdings : List Holding := []
  connections : List Connection := []
  catalogs : List Catalog := []
  deriving DecidableEq, Repr

namespace Workspace

/-- A catalog put together with its connection and its library, and where these are. -/
structure Place where
  catalog : Nat
  connection : Nat
  holding : Nat
  session : Session
  around : Surroundings

/-- The other open connections to a library. -/
def others (w : Workspace) (connection holding : Nat) : List Connection :=
  ((w.connections.zipIdx).filter fun (c, i) =>
    i ≠ connection && c.holding = holding && c.isOpen).map Prod.fst

/-- The place of a catalog. -/
def place? (w : Workspace) (catalog : Nat) : Option Place := do
  let cat ← w.catalogs[catalog]?
  let conn ← w.connections[cat.connection]?
  let holding ← w.holdings[conn.holding]?
  let others := w.others cat.connection conn.holding
  pure
    { catalog
      connection := cat.connection
      holding := conn.holding
      session :=
        { content := holding.content
          draft := conn.draft
          isOpen := conn.isOpen
          settings := conn.settings
          threshold := cat.threshold
          freshness := cat.freshness }
      around := { locked := others.any (·.draft.isSome), shared := !others.isEmpty } }

/-- The workspace after the session of a place has changed. -/
def update (w : Workspace) (p : Place) (s : Session) : Workspace :=
  { holdings := w.holdings.modify p.holding fun h => { h with content := s.content }
    connections := w.connections.modify p.connection fun c =>
      { c with draft := s.draft, isOpen := s.isOpen, settings := s.settings }
    catalogs := w.catalogs.modify p.catalog fun c => { c with freshness := s.freshness } }

/-- Adds a catalog on a connection; its position. -/
def addCatalog (w : Workspace) (connection : Nat) (threshold : Int) : Workspace × Nat :=
  ({ w with catalogs := w.catalogs ++ [{ connection, threshold }] }, w.catalogs.length)

/-- Adds a connection to a library; its position. -/
def addConnection (w : Workspace) (holding : Nat) (journal : Journal) : Workspace × Nat :=
  ({ w with connections := w.connections ++ [{ holding, settings := { journal } }] },
    w.connections.length)

/-- Opens a new library in memory, or one more connection to the library in a file. -/
def connect (w : Workspace) (inMemory : Bool) : Workspace × Nat :=
  if inMemory then
    let more : Workspace := { w with holdings := w.holdings ++ [⟨Library.fresh, true⟩] }
    more.addConnection w.holdings.length .memory
  else if w.holdings.isEmpty then
    let first : Workspace := { w with holdings := [⟨Library.fresh, false⟩] }
    first.addConnection 0 .wal
  else w.addConnection 0 .wal

end Workspace

end BookCatalog
