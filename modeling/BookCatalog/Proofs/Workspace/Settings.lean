import BookCatalog.Proofs.Session.Settings
import BookCatalog.Proofs.Workspace.Atomic

/-!
# A large batch leaves no settings behind

Whatever other connections there are, and whatever the engine lets be changed: after a batch was
stored, or was not, every connection has the settings that it had before, and from which size on a
batch counts as large makes no difference to what is stored (`Workspace.tuning_leaves_no_trace`).
-/

namespace BookCatalog.Workspace

variable {w w' : Workspace} {catalog : Nat} {p : Place} {s : Session} {now : String}
  {interval : Nat} {batch : List Submission} {reply : Reply Failure Unit}

/-- The workspace in which batches count as large for a catalog from another size on. -/
def withThreshold (w : Workspace) (catalog : Nat) (threshold : Int) : Workspace :=
  { w with catalogs := w.catalogs.modify catalog fun c => { c with threshold } }

/-- From which size on batches count as large belongs to the session of a catalog. -/
lemma place?_withThreshold (placed : w.place? catalog = some p) (threshold : Int) :
    (w.withThreshold catalog threshold).place? catalog =
      some { p with session := p.session.tuned p.session.settings threshold } := by
  simp only [place?, Option.bind_eq_bind, Option.bind_eq_some_iff, Option.pure_def,
    Option.some.injEq] at placed
  obtain ⟨cat, found, conn, own, holding, held, rfl⟩ := placed
  have other : (w.withThreshold catalog threshold).catalogs[catalog]? =
      some { cat with threshold } := by
    simp [withThreshold, found]
  have same : (w.withThreshold catalog threshold).others = w.others := rfl
  have connections : (w.withThreshold catalog threshold).connections = w.connections := rfl
  have holdings : (w.withThreshold catalog threshold).holdings = w.holdings := rfl
  simp only [place?, other, connections, own, holdings, held, same, Option.bind_eq_bind,
    Option.bind_some]
  rfl

/-- A session is put back the same way whatever counts as a large batch. -/
lemma update_withThreshold (placed : w.place? catalog = some p) (threshold : Int) (s : Session) :
    (w.withThreshold catalog threshold).update
        { p with session := p.session.tuned p.session.settings threshold }
        (s.tuned s.settings threshold) =
      (w.update p s).withThreshold catalog threshold := by
  obtain ⟨_, _, _, -, -, -, at', -⟩ := place?_eq_some placed
  simp only [update, withThreshold, Workspace.mk.injEq]
  refine ⟨rfl, rfl, List.ext_getElem? fun i => ?_⟩
  simp only [List.getElem?_modify, at']
  by_cases own : catalog = i
  · simp only [own, if_true]
    cases w.catalogs[i]? <;> rfl
  · simp only [own, if_false]

/-- A session that keeps its settings changes those of no connection. -/
lemma connections_update_settings (placed : w.place? catalog = some p)
    (same : s.settings = p.session.settings) (i : Nat) :
    (w.update p s).connections[i]?.map Connection.settings =
      w.connections[i]?.map Connection.settings := by
  obtain ⟨cat, conn, holding, -, own, -, -, at', -, session⟩ := place?_eq_some placed
  rw [← at'] at own
  by_cases here : i = p.connection
  · subst here
    rw [connections_update_self own, own, Option.map_some, Option.map_some, same, session]
  · rw [connections_update_of_ne w p s here]

/-- After a batch was stored, or was not, every connection has its settings, and with any other
threshold the call ends alike and leaves the same: the settings that are changed for a large batch
leave no trace. -/
theorem tuning_leaves_no_trace
    (called : w.call catalog (fun s around => s.insert around now interval batch) =
      some (w', reply)) :
    (∀ i : Nat, w'.connections[i]?.map Connection.settings =
      w.connections[i]?.map Connection.settings) ∧
      ∀ threshold, ∃ notices,
        (w.withThreshold catalog threshold).call catalog
            (fun s around => s.insert around now interval batch) =
          some (w'.withThreshold catalog threshold, ⟨reply.outcome, notices⟩) := by
  obtain ⟨p, placed, ended⟩ := Option.map_eq_some_iff.1 called
  cases ended
  have kept := p.session.insert_settings p.around now interval batch
  refine ⟨connections_update_settings placed kept, fun threshold => ?_⟩
  obtain ⟨notices, same⟩ :=
    p.session.insert_tuned p.around now interval batch p.session.settings threshold
  refine ⟨notices, ?_⟩
  let other := p.session.tuned p.session.settings threshold
  have place := place?_withThreshold placed threshold
  have updated :=
    update_withThreshold placed threshold (p.session.insert p.around now interval batch).1
  rw [kept] at updated
  rw [call, place, Option.map_some, ← updated]
  change some (update _ _ (other.insert p.around now interval batch).1,
    (other.insert p.around now interval batch).2) = _
  rw [same]

/-- Two connections to a library in a file: the first has a transaction open and settings of its
own, and any batch counts as large for the catalog on it. -/
def crowded : Workspace where
  holdings := [⟨Library.fresh, false⟩]
  connections :=
    [{ holding := 0, draft := some Library.fresh
       settings := { synchronous := 1, tempStore := 1, cacheSize := 77, journal := .wal } },
      { holding := 0, settings := { journal := .wal } }]
  catalogs := [{ connection := 0, threshold := 0 }]

/-- Synchronization and journaling cannot be changed there; the other settings are put back when a
book with a size that fits no column is refused, and it is refused all the same under a threshold
that no batch reaches. -/
theorem crowded_settings_put_back :
    ∃ w' notices,
      crowded.call 0 (fun s around => s.insert around "2024-01-01T00:00:00" defaultInterval
          [{ id := "b", title := some "T", fileSize := some (2 ^ 63) }]) =
        some (w', ⟨.error .integerTooLarge, notices⟩) ∧
      notices = [.settingKept "synchronous" "Safety level may not be changed inside a transaction",
        .settingKept "journal_mode" "cannot change out of wal mode from within a transaction"] ∧
      w'.connections[0]?.map Connection.settings =
        some { synchronous := 1, tempStore := 1, cacheSize := 77, journal := .wal } ∧
      ∃ notices', (crowded.withThreshold 0 1000).call 0 (fun s around =>
          s.insert around "2024-01-01T00:00:00" defaultInterval
            [{ id := "b", title := some "T", fileSize := some (2 ^ 63) }]) =
        some (w'.withThreshold 0 1000, ⟨.error .integerTooLarge, notices'⟩) := by
  obtain ⟨⟨w', ⟨outcome, notices⟩⟩, called, told⟩ := Option.map_eq_some_iff.1
    (show (crowded.call 0 fun s around => s.insert around "2024-01-01T00:00:00" defaultInterval
        [{ id := "b", title := some "T", fileSize := some (2 ^ 63) }]).map
      (fun answer => (answer.2.outcome, answer.2.notices)) = some (.error .integerTooLarge,
        [.settingKept "synchronous" "Safety level may not be changed inside a transaction",
          .settingKept "journal_mode" "cannot change out of wal mode from within a transaction"])
      by decide +kernel)
  obtain ⟨rfl, rfl⟩ := Prod.mk.inj told
  obtain ⟨kept, alike⟩ := tuning_leaves_no_trace called
  exact ⟨w', _, called, rfl, kept 0, alike 1000⟩

end BookCatalog.Workspace
