import BookCatalog.Library.Basic
import Mathlib

/-!
# Tables of names

What adding a name does to a table of names. The central notions:

* `Dimension.Sound`: no name and no number stands in the table twice, and no number lies above the
  last one that was given out. A new name keeps a table sound (`Dimension.Sound.add`).
* `Dimension.Extends`: a later state of a table, in which every name still has its number.
* `Dimension.Grows`: a later state of a table, to which only new names were added. It extends the
  table and stays sound.
* `Dimension.Follows`: a later state of a table that may have been emptied in between. Its new
  numbers lie above all that were given out before.
* `Dimension.Refers`: a number that a book keeps stands for a name, and no number for a name that is
  missing or empty.
-/

namespace BookCatalog

/-- Where keys stand once, a row is found by its key. -/
lemma find?_of_nodup {α β : Type} [DecidableEq β] {key : α → β} {rows : List α}
    (nodup : (rows.map key).Nodup) {r : α} (mem : r ∈ rows) :
    rows.find? (key · = key r) = some r := by
  obtain ⟨r', found⟩ := Option.isSome_iff_exists.1
    (List.find?_isSome.2 ⟨r, mem, decide_eq_true rfl⟩ : (rows.find? (key · = key r)).isSome)
  have same : key r' = key r := by simpa using List.find?_some found
  rw [found, List.inj_on_of_nodup_map nodup (List.mem_of_find?_eq_some found) mem same]

/-- Where keys stand once, a row is found by its key in whatever order the rows are. -/
lemma find?_perm {α β : Type} [DecidableEq β] {key : α → β} {rows rows' : List α}
    (nodup : (rows.map key).Nodup) (perm : rows.Perm rows') (k : β) :
    rows.find? (key · = k) = rows'.find? (key · = k) := by
  cases found : rows.find? (key · = k) with
  | some r =>
    have own : key r = k := by simpa using List.find?_some found
    subst own
    have there := perm.mem_iff.1 (List.mem_of_find?_eq_some found)
    exact (find?_of_nodup ((perm.map key).nodup nodup) there).symm
  | none =>
    rw [List.find?_eq_none] at found
    exact (List.find?_eq_none.2 fun r mem => found r (perm.mem_iff.2 mem)).symm

namespace Dimension

variable {d d' d'' : Dimension} {id : Int} {name other : String}

/-- A table in which names and numbers stand once, below the last number given out. -/
structure Sound (d : Dimension) : Prop where
  names_nodup : (d.rows.map Named.name).Nodup
  ids_nodup : (d.rows.map Named.id).Nodup
  id_le : ∀ r ∈ d.rows, r.id ≤ d.lastId

/-- A later state of a table of names: its rows are still there. -/
structure Extends (d d' : Dimension) : Prop where
  rows : d.rows ⊆ d'.rows
  lastId : d.lastId ≤ d'.lastId

/-- A later state of a table of names, to which only new names were added. -/
inductive Grows (d : Dimension) : Dimension → Prop where
  | refl : Grows d d
  | add {between : Dimension} {name : String} :
    Grows d between → between.idOf? name = none → Grows d (between.add name)

/-- A later state of a table of names, which may have been emptied: a row that was not there before
has a number that was not given out before. -/
structure Follows (d d' : Dimension) : Prop where
  lastId : d.lastId ≤ d'.lastId
  above : ∀ r ∈ d'.rows, r ∈ d.rows ∨ d.lastId < r.id

/-- The number of a row of a table. -/
def Has (d : Dimension) (id : Int) : Prop :=
  ∃ r ∈ d.rows, r.id = id

/-- The number that stands for a name; there is none for a missing or an empty name. -/
inductive Refers (d : Dimension) : Option Int → Option String → Prop where
  | missing : Refers d none none
  | empty : Refers d none (some "")
  | named {i n} : n ≠ "" → ⟨i, n⟩ ∈ d.rows → Refers d (some i) (some n)

/-- A table extends itself. -/
lemma Extends.refl (d : Dimension) : d.Extends d :=
  ⟨List.Subset.refl _, le_refl _⟩

/-- A state that extends a later one extends the earlier one. -/
lemma Extends.trans (h : d.Extends d') (h' : d'.Extends d'') : d.Extends d'' :=
  ⟨List.Subset.trans h.rows h'.rows, le_trans h.lastId h'.lastId⟩

/-- A number goes on standing for its name. -/
lemma Refers.mono {id : Option Int} {name : Option String} (r : d.Refers id name)
    (h : d.Extends d') : d'.Refers id name := by
  cases r with
  | missing => exact .missing
  | empty => exact .empty
  | named ne mem => exact .named ne (h.rows mem)

/-- A number that is in a table stays in it. -/
lemma Has.mono (has : d.Has id) (h : d.Extends d') : d'.Has id := by
  obtain ⟨r, mem, same⟩ := has
  exact ⟨r, h.rows mem, same⟩

/-- A number that a book keeps is in the table. -/
lemma Refers.has {id : Option Int} {name : Option String} (r : d.Refers id name) :
    ∀ i ∈ id, d.Has i := by
  intro i own
  cases r with
  | missing => cases own
  | empty => cases own
  | named _ mem =>
    cases own
    exact ⟨_, mem, rfl⟩

/-- A table follows itself. -/
lemma Follows.refl (d : Dimension) : d.Follows d :=
  ⟨le_refl _, fun _ => .inl⟩

/-- A state that follows a later one follows the earlier one. -/
lemma Follows.trans (h : d.Follows d') (h' : d'.Follows d'') : d.Follows d'' := by
  refine ⟨le_trans h.lastId h'.lastId, fun r mem => ?_⟩
  rcases h'.above r mem with between | new
  · exact h.above r between
  · exact .inr (lt_of_le_of_lt h.lastId new)

/-! ## Looking a name up -/

/-- A name has no number if it is not in the table. -/
lemma idOf?_eq_none : d.idOf? name = none ↔ ∀ r ∈ d.rows, r.name ≠ name := by
  simp [idOf?]

/-- A name that has a number is in the table with it. -/
lemma mem_of_idOf? (h : d.idOf? name = some id) : ⟨id, name⟩ ∈ d.rows := by
  obtain ⟨r, found, rfl⟩ := Option.map_eq_some_iff.1 h
  have named : r.name = name := by simpa using List.find?_some found
  subst named
  exact List.mem_of_find?_eq_some found

/-- A sound table has one row for a name. -/
lemma Sound.eq_of_name {r r' : Named} (h : d.Sound) (mem : r ∈ d.rows) (mem' : r' ∈ d.rows)
    (e : r.name = r'.name) : r = r' :=
  List.inj_on_of_nodup_map h.names_nodup mem mem' e

/-- A sound table has one row for a number. -/
lemma Sound.eq_of_id {r r' : Named} (h : d.Sound) (mem : r ∈ d.rows) (mem' : r' ∈ d.rows)
    (e : r.id = r'.id) : r = r' :=
  List.inj_on_of_nodup_map h.ids_nodup mem mem' e

/-- A row of a sound table is found by its number. -/
lemma Sound.byId?_of_mem {r : Named} (h : d.Sound) (mem : r ∈ d.rows) :
    d.byId? r.id = some r :=
  find?_of_nodup h.ids_nodup mem

/-- A name that has a number has the same one later on. -/
lemma Extends.mem_iff {other : Int} (h : d.Extends d') (sound : d'.Sound)
    (named : ⟨id, name⟩ ∈ d.rows) : ⟨other, name⟩ ∈ d'.rows ↔ ⟨other, name⟩ ∈ d.rows := by
  refine ⟨fun mem => ?_, fun mem => h.rows mem⟩
  have same := sound.eq_of_name mem (h.rows named) rfl
  rwa [same]

/-! ## Adding a name -/

/-- A new name has the number that comes next. -/
lemma idOf?_add_self (new : d.idOf? name = none) :
    (d.add name).idOf? name = some (d.lastId + 1) := by
  have absent : d.rows.find? (·.name = name) = none := by simpa [idOf?] using new
  simp [idOf?, add, List.find?_append, absent]

/-- Names that have a number keep it. -/
lemma idOf?_add_of_some (h : d.idOf? other = some id) : (d.add name).idOf? other = some id := by
  obtain ⟨r, found, rfl⟩ := Option.map_eq_some_iff.1 h
  simp [idOf?, add, List.find?_append, found]

/-- A table with one more name extends the table without it. -/
lemma extends_add (d : Dimension) (name : String) : d.Extends (d.add name) :=
  ⟨List.subset_append_left _ _, by simp [add]⟩

/-- A sound table stays sound with a new name, whose number lies above all others. -/
lemma Sound.add (h : d.Sound) (new : d.idOf? name = none) : (d.add name).Sound := by
  have unnamed := idOf?_eq_none.1 new
  refine ⟨?_, ?_, ?_⟩
  · simp only [Dimension.add, List.map_append, List.map_cons, List.map_nil]
    refine List.nodup_append.2 ⟨h.names_nodup, List.nodup_singleton _, ?_⟩
    intro a mem b mem' e
    obtain ⟨r, hr, rfl⟩ := List.mem_map.1 mem
    rw [List.mem_singleton] at mem'
    exact unnamed r hr (e.trans mem')
  · simp only [Dimension.add, List.map_append, List.map_cons, List.map_nil]
    refine List.nodup_append.2 ⟨h.ids_nodup, List.nodup_singleton _, ?_⟩
    intro a mem b mem' e
    obtain ⟨r, hr, rfl⟩ := List.mem_map.1 mem
    rw [List.mem_singleton] at mem'
    have below := h.id_le r hr
    omega
  · intro r mem
    simp only [Dimension.add, List.mem_append, List.mem_singleton] at mem
    cases mem with
    | inl old =>
      have below := h.id_le r old
      simp only [Dimension.add]
      omega
    | inr new =>
      subst new
      exact le_refl _

/-- What has grown may grow further. -/
lemma Grows.trans (h : d.Grows d') (h' : d'.Grows d'') : d.Grows d'' := by
  induction h' with
  | refl => exact h
  | add _ new ih => exact ih.add new

/-- A table that has grown extends the one that it has grown from. -/
lemma Grows.extends (h : d.Grows d') : d.Extends d' := by
  induction h with
  | refl => exact .refl d
  | add _ _ ih => exact ih.trans (extends_add _ _)

/-- A sound table stays sound when it grows. -/
lemma Grows.sound (h : d.Grows d') (sound : d.Sound) : d'.Sound := by
  induction h with
  | refl => exact sound
  | add _ new ih => exact ih.add new

/-- A table that has grown follows the one that it has grown from. -/
lemma Grows.follows (h : d.Grows d') : d.Follows d' := by
  induction h with
  | refl => exact .refl d
  | @add between name grown _ ih =>
    refine ⟨le_trans ih.lastId (extends_add between name).lastId, fun r mem => ?_⟩
    rcases List.mem_append.1 mem with old | new
    · exact ih.above r old
    · cases List.mem_singleton.1 new
      exact .inr (Int.lt_add_one_iff.2 ih.lastId)

/-- An emptied table follows the one that was emptied. -/
lemma follows_clear (d : Dimension) : d.Follows d.clear :=
  ⟨le_refl _, nofun⟩

/-- A table without rows is sound. -/
lemma Sound.of_empty (empty : d.rows = []) : d.Sound :=
  ⟨by simp [empty], by simp [empty], by simp [empty]⟩

end Dimension

end BookCatalog
