import BookCatalog.Proofs.Library.References
import BookCatalog.Proofs.Workspace.Atomic

/-!
# Names in a shared library

Any number of connections and catalogs share a library. Whatever they do, and whether or not it
succeeds, the tables fit together, names keep their numbers until the library is emptied, and no
number is given out twice. The central notions:

* `Sharing.run`: a shared library, from new on, on which connections and catalogs are opened,
  transactions are begun and undone, and catalogs write. How often it has been emptied is counted.
* `Session.Leads`: what a step of one session can do to what is committed (`Step.on_leads`).
* `Sharing.Orderly`: what is committed is intact, and no open transaction has changed anything.
  Every turn keeps it (`Sharing.Orderly.turn`), so it is true of every run (`Sharing.Orderly.run`).
-/

namespace BookCatalog

/-! ## Steps of a session -/

/-- What a catalog can do on its connection. -/
inductive Step where
  | begin
  | undo
  | close
  | insert (now : String) (interval : Nat) (batch : List Submission)
  | clear
  | reindex (now : String) (interval : Nat) (file : Option IndexFile)

/-- How often a library has been emptied by emptying it once: not at all if that failed. -/
def clearings : Except Failure Unit → Nat
  | .ok _ => 1
  | .error _ => 0

/-- The session after a step, and how often the library has been emptied. Rebuilding it empties it
if the index file can be read, whatever becomes of its books. -/
def Step.on (s : Session) (around : Surroundings) : Step → Session × Nat
  | .begin => ((s.begin around).1, 0)
  | .undo => (s.undo.1, 0)
  | .close => (s.close, 0)
  | .insert now interval batch => ((s.insert around now interval batch).1, 0)
  | .clear => ((s.clear around).1, clearings (s.clear around).2)
  | .reindex now interval file =>
    ((s.reindex around now interval file).1,
      match readIndex file with
      | .error _ => 0
      | .ok _ => clearings (s.clear around).2)

namespace Session

variable {s s' s'' : Session} {around : Surroundings} {now : String} {interval n n' : Nat}
  {batch : List Submission} {outcome : Except Failure Unit}

/-- A transaction that is open has not changed anything. -/
def Pristine (s : Session) : Prop :=
  s.draft = none ∨ s.isOpen = true ∧ s.draft = some s.content

/-- What a step of a session can do to what is committed, if it empties the library `n` times. It
changes nothing while another connection has a transaction open. -/
structure Leads (s : Session) (around : Surroundings) (n : Nat) (s' : Session) : Prop where
  pristine : s'.Pristine
  intact : s'.content.Intact
  follows : ∀ kind, (s.content.names kind).Follows (s'.content.names kind)
  keeps : n = 0 → s.content.NamesExtend s'.content
  alone : s'.content ≠ s.content → around.locked = false

/-- A session that has changed nothing sees what is committed. -/
lemma Pristine.library_eq (pristine : s.Pristine) : s.library = s.content := by
  rcases pristine with none | ⟨-, some⟩
  · exact library_of_settled none
  · rw [library, some, Option.getD_some]

/-- A step that commits nothing leads to what was committed before. -/
lemma leads_of_content (intact : s.content.Intact) (pristine : s'.Pristine)
    (same : s'.content = s.content) : s.Leads around n s' where
  pristine := pristine
  intact := same ▸ intact
  follows _ := same ▸ .refl _
  keeps _ _ := same ▸ .refl _
  alone changed := absurd same changed

/-- What two steps lead to. -/
lemma Leads.trans (h : s.Leads around n s') (h' : s'.Leads around n' s'') :
    s.Leads around (n + n') s'' where
  pristine := h'.pristine
  intact := h'.intact
  follows kind := (h.follows kind).trans (h'.follows kind)
  keeps none kind :=
    (h.keeps (Nat.eq_zero_of_add_eq_zero_right none) kind).trans
      (h'.keeps (Nat.eq_zero_of_add_eq_zero_left none) kind)
  alone changed := by
    by_cases same : s'.content = s.content
    · exact h'.alone (same ▸ changed)
    · exact h.alone same

/-- Storing a batch adds names, if anything. -/
lemma Inserts.leads (pristine : s.Pristine) (intact : s.content.Intact)
    (inserts : s.Inserts around now interval batch s' outcome) : s.Leads around 0 s' := by
  cases inserts with
  | nothing => exact leads_of_content intact pristine rfl
  | closed => exact leads_of_content intact pristine rfl
  | undone => exact leads_of_content intact (.inl rfl) rfl
  | stored _ ok =>
    rw [batchResult, pristine.library_eq] at ok
    obtain ⟨intact', grows⟩ := Library.insertAll_intact intact ok
    exact
      { pristine := .inl rfl
        intact := by rwa [batchResult, pristine.library_eq]
        follows := fun kind => by
          rw [batchResult, pristine.library_eq]
          exact (grows kind).follows
        keeps := fun _ => by
          rw [batchResult, pristine.library_eq]
          exact grows.extends
        alone := fun changed => by
          rw [batchResult, pristine.library_eq] at changed
          exact Library.insertAll_unlocked ok changed }

/-- Emptying the library leaves no names, but numbers go on where they were. -/
lemma Clears.leads (pristine : s.Pristine) (intact : s.content.Intact)
    (clears : s.Clears around s' outcome) : s.Leads around (clearings outcome) s' := by
  cases clears with
  | closed => exact leads_of_content intact pristine rfl
  | undone => exact leads_of_content intact (.inl rfl) rfl
  | emptied _ _ unlocked =>
    exact
      { pristine := .inl rfl
        intact := Library.intact_emptied _
        follows := fun kind => by
          rw [pristine.library_eq]
          exact Library.follows_emptied _ kind
        keeps := nofun
        alone := fun _ => unlocked }

/-- A transaction that has just begun has changed nothing. -/
lemma pristine_begin (pristine : s.Pristine) (around : Surroundings) :
    (s.begin around).1.Pristine := by
  rw [begin]
  split
  case isTrue => exact pristine
  case isFalse opened =>
    split
    case isTrue => exact pristine
    case isFalse =>
      split
      case isTrue => exact pristine
      case isFalse => exact .inr ⟨by simpa using opened, rfl⟩

/-- A transaction that is undone has changed nothing. -/
lemma pristine_undo (pristine : s.Pristine) : s.undo.1.Pristine := by
  rw [undo]
  split
  case isTrue => exact .inl rfl
  case isFalse => exact pristine

/-- Beginning a transaction commits nothing. -/
lemma content_begin (s : Session) (around : Surroundings) :
    (s.begin around).1.content = s.content := by
  rw [begin]
  split <;> first | rfl | split <;> first | rfl | split <;> rfl

/-- Undoing a transaction commits nothing. -/
lemma content_undo (s : Session) : s.undo.1.content = s.content := by
  rw [undo]
  split <;> rfl

end Session

/-- Every step of a catalog leads to what a step can lead to. -/
theorem Step.on_leads {s : Session} (pristine : s.Pristine) (intact : s.content.Intact)
    (around : Surroundings) (step : Step) :
    s.Leads around (step.on s around).2 (step.on s around).1 := by
  cases step with
  | begin =>
    exact Session.leads_of_content intact (Session.pristine_begin pristine around)
      (s.content_begin around)
  | undo => exact Session.leads_of_content intact (Session.pristine_undo pristine) s.content_undo
  | close => exact Session.leads_of_content intact (.inl rfl) rfl
  | insert now interval batch =>
    exact (s.insert_inserts around now interval batch).leads pristine intact
  | clear => exact (s.clear_clears around).leads pristine intact
  | reindex now interval file =>
    have rebuilds := s.reindex_rebuilds around now interval file
    simp only [Step.on]
    generalize (s.reindex around now interval file).1 = after,
      (s.reindex around now interval file).2.outcome = outcome at rebuilds ⊢
    cases rebuilds with
    | unread read =>
      rw [read]
      exact Session.leads_of_content intact pristine rfl
    | notCleared read clear =>
      rw [read, clear]
      exact (Session.clears_of_eq clear).leads pristine intact
    | notInserted read clear inserts =>
      rw [read, clear]
      have cleared := (Session.clears_of_eq clear).leads pristine intact
      exact cleared.trans (inserts.leads cleared.pristine cleared.intact)
    | rebuilt read clear inserts =>
      rw [read, clear]
      have cleared := (Session.clears_of_eq clear).leads pristine intact
      exact cleared.trans (inserts.leads cleared.pristine cleared.intact)

/-! ## Turns of a shared library -/

/-- Something that happens to a shared library. -/
inductive Turn where
  | connect
  | openCatalog (connection : Nat) (threshold : Int)
  | act (catalog : Nat) (step : Step)

/-- A workspace with one library, and how often the library has been emptied. -/
structure Sharing where
  workspace : Workspace
  emptied : Nat := 0

namespace Sharing

/-- A new library, in memory or in a file, and a connection to it. -/
def start (inMemory : Bool) : Sharing :=
  { workspace := (({} : Workspace).connect inMemory).1 }

/-- What is committed. -/
def content (t : Sharing) : Library :=
  match t.workspace.holdings with
  | [] => {}
  | holding :: _ => holding.content

/-- One turn. Nothing happens if it is about a catalog that is not there. -/
def turn (t : Sharing) : Turn → Sharing
  | .connect => { t with workspace := (t.workspace.connect false).1 }
  | .openCatalog connection threshold =>
    { t with workspace := (t.workspace.addCatalog connection threshold).1 }
  | .act catalog step =>
    match t.workspace.call catalog fun s around => step.on s around with
    | none => t
    | some (w, n) => ⟨w, t.emptied + n⟩

def run (t : Sharing) (turns : List Turn) : Sharing :=
  turns.foldl turn t

/-- There is one library, it is intact, and no open transaction has changed anything. -/
structure Orderly (t : Sharing) : Prop where
  single : ∃ inMemory, t.workspace.holdings = [⟨t.content, inMemory⟩]
  intact : t.content.Intact
  connections : ∀ conn ∈ t.workspace.connections, conn.holding = 0 ∧
    (conn.draft = none ∨ conn.isOpen = true ∧ conn.draft = some t.content)

/-- What may have become of the names: numbers go on from where they were, and as long as the
library is not emptied names keep theirs. -/
structure Precedes (t t' : Sharing) : Prop where
  counted : t.emptied ≤ t'.emptied
  follows : ∀ kind, (t.content.names kind).Follows (t'.content.names kind)
  keeps : t.emptied = t'.emptied → t.content.NamesExtend t'.content

variable {t t' t'' : Sharing} {catalog n : Nat} {p : Workspace.Place} {s : Session}

/-- Where what is committed stays the same, the names stay. -/
lemma precedes_of_content (content : t'.content = t.content) (emptied : t'.emptied = t.emptied) :
    t.Precedes t' :=
  ⟨emptied.ge, fun _ => content ▸ .refl _, fun _ _ => content ▸ .refl _⟩

/-- What may become of the names in two stretches may become of them in one. -/
lemma Precedes.trans (h : t.Precedes t') (h' : t'.Precedes t'') : t.Precedes t'' where
  counted := h.counted.trans h'.counted
  follows kind := (h.follows kind).trans (h'.follows kind)
  keeps same kind := by
    -- the count never falls, so that it has stayed the same all along
    have first : t.emptied = t'.emptied := le_antisymm h.counted (same ▸ h'.counted)
    exact (h.keeps first kind).trans (h'.keeps (first.symm.trans same) kind)

/-- Who may write is the only one with a transaction. -/
lemma draft_eq_none {w : Workspace} (placed : w.place? catalog = some p)
    (unlocked : p.around.locked = false) {i : Nat} {conn : Connection}
    (found : w.connections[i]? = some conn) (other : i ≠ p.connection)
    (same : conn.holding = p.holding) (opened : conn.isOpen = true) : conn.draft = none := by
  simp only [Workspace.place?, Option.bind_eq_bind, Option.bind_eq_some_iff, Option.pure_def,
    Option.some.injEq] at placed
  obtain ⟨cat, -, conn', -, holding, -, rfl⟩ := placed
  have listed : conn ∈ w.others cat.connection conn'.holding := by
    refine List.mem_map.2 ⟨(conn, i), List.mem_filter.2 ⟨?_, ?_⟩, rfl⟩
    · exact List.mem_zipIdx_iff_getElem?.2 found
    · simpa using ⟨⟨other, same⟩, opened⟩
  simpa using List.any_eq_false.1 unlocked conn listed

/-- A catalog sees what is committed, and its open transaction has not changed anything. -/
lemma Orderly.place (orderly : t.Orderly) (placed : t.workspace.place? catalog = some p) :
    p.holding = 0 ∧ p.session.content = t.content ∧ p.session.Pristine := by
  obtain ⟨cat, conn, holding, -, own, held, -, -, at', session⟩ := Workspace.place?_eq_some placed
  obtain ⟨inMemory, single⟩ := orderly.single
  obtain ⟨first, draft⟩ := orderly.connections conn (List.mem_of_getElem? own)
  rw [single, first] at held
  cases held
  rw [session]
  exact ⟨at'.trans first, rfl, draft⟩

/-- What a step leads to keeps a shared library orderly. -/
lemma Orderly.update (orderly : t.Orderly) (placed : t.workspace.place? catalog = some p)
    (leads : p.session.Leads p.around n s) :
    Orderly ⟨t.workspace.update p s, t.emptied + n⟩ ∧
      t.Precedes ⟨t.workspace.update p s, t.emptied + n⟩ := by
  obtain ⟨first, same, -⟩ := orderly.place placed
  obtain ⟨inMemory, single⟩ := orderly.single
  have holdings : (t.workspace.update p s).holdings = [⟨s.content, inMemory⟩] := by
    simp [Workspace.update, single, first]
  have content : content ⟨t.workspace.update p s, t.emptied + n⟩ = s.content := by
    rw [Sharing.content, holdings]
  constructor
  · refine ⟨⟨inMemory, content.symm ▸ holdings⟩, content.symm ▸ leads.intact, fun conn mem => ?_⟩
    obtain ⟨i, at'⟩ := List.mem_iff_getElem?.1 mem
    simp only [Workspace.update, List.getElem?_modify, Option.map_eq_map,
      Option.map_eq_some_iff] at at'
    obtain ⟨old, found, rfl⟩ := at'
    obtain ⟨holding, draft⟩ := orderly.connections old (List.mem_of_getElem? found)
    rw [content]
    split
    case isTrue => exact ⟨holding, leads.pristine⟩
    case isFalse other =>
      refine ⟨holding, ?_⟩
      rcases draft with none | ⟨opened, some⟩
      · exact .inl none
      · -- somebody else has a transaction, so that nothing has changed
        by_cases changed : s.content = p.session.content
        · exact .inr ⟨opened, by rw [changed, same]; exact some⟩
        · exact .inl (draft_eq_none placed (leads.alone changed) found (Ne.symm other)
            (holding.trans first.symm) opened)
  · refine ⟨Nat.le_add_right _ _, fun kind => ?_, fun kept => ?_⟩
    · rw [content, ← same]
      exact leads.follows kind
    · rw [content, ← same]
      exact leads.keeps (by simpa using kept)

/-- Every turn keeps a shared library orderly. -/
theorem Orderly.turn (orderly : t.Orderly) (turn : Turn) :
    (t.turn turn).Orderly ∧ t.Precedes (t.turn turn) := by
  cases turn with
  | connect =>
    obtain ⟨inMemory, single⟩ := orderly.single
    -- the library is there already, and the new connection has no transaction
    have more : (t.workspace.connect false).1 = (t.workspace.addConnection 0 .wal).1 := by
      simp [Workspace.connect, single]
    rw [Sharing.turn, more]
    refine ⟨⟨⟨inMemory, single⟩, orderly.intact, fun conn mem => ?_⟩, precedes_of_content rfl rfl⟩
    rcases List.mem_append.1 mem with old | new
    · exact orderly.connections conn old
    · cases List.mem_singleton.1 new
      exact ⟨rfl, .inl rfl⟩
  | openCatalog =>
    exact ⟨⟨orderly.single, orderly.intact, orderly.connections⟩, precedes_of_content rfl rfl⟩
  | act catalog step =>
    rw [Sharing.turn]
    cases placed : t.workspace.place? catalog with
    | none =>
      rw [Workspace.call, placed]
      exact ⟨orderly, precedes_of_content rfl rfl⟩
    | some p =>
      rw [Workspace.call, placed]
      obtain ⟨-, same, pristine⟩ := orderly.place placed
      exact orderly.update placed (step.on_leads pristine (same ▸ orderly.intact) p.around)

/-- Any number of turns keep a shared library orderly. -/
theorem Orderly.run (orderly : t.Orderly) (turns : List Turn) :
    (t.run turns).Orderly ∧ t.Precedes (t.run turns) := by
  induction turns generalizing t with
  | nil => exact ⟨orderly, precedes_of_content rfl rfl⟩
  | cons turn rest ih =>
    obtain ⟨orderly', precedes⟩ := orderly.turn turn
    obtain ⟨last, precedes'⟩ := ih orderly'
    exact ⟨last, precedes.trans precedes'⟩

/-- A new library is orderly. -/
lemma orderly_start (inMemory : Bool) : (start inMemory).Orderly := by
  have holdings : (start inMemory).workspace.holdings = [⟨Library.fresh, inMemory⟩] := by
    cases inMemory <;> rfl
  have content : (start inMemory).content = Library.fresh := by rw [Sharing.content, holdings]
  refine ⟨⟨inMemory, content.symm ▸ holdings⟩, content.symm ▸ Library.intact_fresh,
    fun conn mem => ?_⟩
  cases inMemory <;>
    · cases List.mem_singleton.1 mem
      exact ⟨rfl, .inl rfl⟩

/-! ## The tables after a run -/

/-- After every run the tables of a shared library are intact. What has become of them later: as
long as the library was not emptied, every name still has its number, and at any rate a new row has
a number above all that were ever committed for its kind before. -/
theorem names_run (inMemory : Bool) (before later : List Turn) :
    let first := (start inMemory).run before
    let last := first.run later
    (∃ inMemory, last.workspace.holdings = [⟨last.content, inMemory⟩]) ∧
      last.content.Intact ∧
      (first.emptied = last.emptied →
        ∀ kind, (first.content.names kind).rows ⊆ (last.content.names kind).rows) ∧
      ∀ kind, ∀ r ∈ (last.content.names kind).rows, r ∉ (first.content.names kind).rows →
        ∀ earlier, earlier <+: before →
          ∀ r' ∈ (((start inMemory).run earlier).content.names kind).rows, r'.id < r.id := by
  intro first last
  have orderly : first.Orderly := ((orderly_start inMemory).run before).1
  obtain ⟨orderly', precedes⟩ := orderly.run later
  refine ⟨orderly'.single, orderly'.intact, fun kept kind => (precedes.keeps kept kind).rows, ?_⟩
  rintro kind r mem new earlier ⟨between, rfl⟩ r' mem'
  have above : (first.content.names kind).lastId < r.id :=
    ((precedes.follows kind).above r mem).resolve_left new
  obtain ⟨orderly₀, -⟩ := (orderly_start inMemory).run earlier
  have between : ((start inMemory).run earlier).Precedes first := by
    simp only [first, run, List.foldl_append]
    exact (orderly₀.run between).2
  calc r'.id
      ≤ (((start inMemory).run earlier).content.names kind).lastId :=
        (orderly₀.intact.sound kind).id_le r' mem'
    _ ≤ (first.content.names kind).lastId := (between.follows kind).lastId
    _ < r.id := above

/-- An author who is stored again after the library was emptied does not get the old number back. -/
example :
    let ann : Submission := { id := "b", title := some "T", authors := some [some "Ann"] }
    let store : Turn := .act 0 (.insert "2024-01-01T00:00:00" defaultInterval [ann])
    ((start true).run [.openCatalog 0 defaultThreshold, store]).content.authors.rows =
      [⟨1, "Ann"⟩] ∧ ((start true).run
        [.openCatalog 0 defaultThreshold, store, .act 0 .clear, store]).content.authors.rows =
          [⟨2, "Ann"⟩] := by
  decide +kernel

end Sharing

end BookCatalog
