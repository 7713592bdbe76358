import BookCatalog.Proofs.Library.Naming
import BookCatalog.Proofs.Search.Represented
import BookCatalog.Proofs.Session.Alike

/-!
# The order of imports

A batch that has no id in common with another one may be stored before or after it, and the
submissions of a batch in which no id stands twice may come in any order (`Log.inserts_commute`).
The names get other numbers then, because other books are the first ones that mention them; nothing
that a session shows depends on these (`Session.Resembles`). What carries this is that the last
submissions are the same (`Session.Holds.resembles`).
-/

namespace BookCatalog

/-- The circumstances in which the only writer of a library makes a call. -/
structure Occasion where
  now : String
  shared : Bool := false
  interval : Nat := defaultInterval

namespace Session

variable {s s₁ s₂ : Session} {o : Occasion} {ledger ledger₁ ledger₂ batch : List Submission}

/-- Stores a batch on an occasion. -/
def insertOn (s : Session) (o : Occasion) (batch : List Submission) :
    Session × Reply Failure Unit :=
  s.insert { shared := o.shared } o.now o.interval batch

/-- Two sessions show the same, but for the times of the books and the numbers of the names. -/
structure Resembles (s s' : Session) : Prop where
  search : ∀ f, (s.search f).map (Page.map Book.unnumbered) =
    (s'.search f).map (Page.map Book.unnumbered)
  getBook : ∀ id,
    (s.getBook id).map (Option.map Book.unnumbered) =
    (s'.getBook id).map (Option.map Book.unnumbered)
  names : ∀ kind,
    ((s.library.names kind).rows.map Named.name).Perm ((s'.library.names kind).rows.map Named.name)

/-- Two sessions that are both open or both closed see their libraries, or fail alike. -/
lemma opened_cases (isOpen : s₁.isOpen = s₂.isOpen) :
    s₁.opened = .ok s₁.library ∧ s₂.opened = .ok s₂.library ∨
      s₁.opened = .error .closed ∧ s₂.opened = .error .closed := by
  cases opened : s₂.isOpen <;> simp [Session.opened, isOpen, opened]

/-- Sessions resemble each other if the same submissions count in both and the same names are
there. -/
lemma Holds.resembles (holds₁ : s₁.Holds ledger₁) (holds₂ : s₂.Holds ledger₂)
    (lasts : ∀ id, lastWith? id ledger₁ = lastWith? id ledger₂) (isOpen : s₁.isOpen = s₂.isOpen)
    (names : ∀ kind, s₁.library.nameSet kind = s₂.library.nameSet kind) : s₁.Resembles s₂ := by
  have rep₂ := holds₂.represents
  have rep₁ := holds₁.represents.congr lasts rep₂.storable
  refine { search := fun f => ?_, getBook := fun id => ?_, names := fun kind => ?_ }
  · rw [Session.search, Session.search]
    rcases opened_cases isOpen with ⟨ok₁, ok₂⟩ | ⟨closed₁, closed₂⟩
    · rw [ok₁, ok₂]
      exact rep₁.search_unnumbered rep₂ holds₁.ready holds₂.ready f
    · rw [closed₁, closed₂]
  · rw [Session.getBook, Session.getBook]
    rcases opened_cases isOpen with ⟨ok₁, ok₂⟩ | ⟨closed₁, closed₂⟩
    · rw [ok₁, ok₂]
      exact rep₁.getBook_unnumbered rep₂ holds₁.ready holds₂.ready id
    · rw [closed₁, closed₂]
  · have same := Set.ext_iff.1 (names kind)
    have nodup₁ := (rep₁.sound kind).names_nodup
    refine (List.perm_ext_iff_of_nodup nodup₁ (rep₂.sound kind).names_nodup).2 fun name => ?_
    simpa [Library.nameSet] using same name

/-- A batch is stored if it is empty, or if the session is open and all of it can be stored. -/
lemma Holds.insertOn_ok_iff (holds : s.Holds ledger) :
    (s.insertOn o batch).2.outcome = .ok () ↔
      batch = [] ∨ s.isOpen = true ∧ ∀ b ∈ batch, b.Storable :=
  holds.insert_ok_iff rfl

/-- What a session holds after a batch, and which names there are. -/
lemma Holds.insertOn (holds : s.Holds ledger) (ok : (s.insertOn o batch).2.outcome = .ok ()) :
    (s.insertOn o batch).1.Holds (ledger ++ batch) ∧ (s.insertOn o batch).1.isOpen = s.isOpen ∧
      ∀ kind, (s.insertOn o batch).1.library.nameSet kind =
        s.library.nameSet kind ∪ {name | ∃ b ∈ batch, b.Mentions kind name} := by
  obtain ⟨stores, after⟩ := holds.insert ok
  refine ⟨after, stores.isOpen, fun kind => ?_⟩
  rw [← Library.nameSet_storedAll stores.storable s.library o.now kind, ← stores.library]
  rfl

/-- Two batches without a common id are both stored in either order, and what is shown is the
same. -/
theorem Holds.insertOn_comm (holds : s.Holds ledger) {xs ys : List Submission}
    (apart : ∀ x ∈ xs, ∀ y ∈ ys, x.id ≠ y.id) {o₁ o₂ : Occasion}
    (ok₁ : (s.insertOn o₁ xs).2.outcome = .ok ())
    (ok₂ : ((s.insertOn o₁ xs).1.insertOn o₂ ys).2.outcome = .ok ()) (o₃ o₄ : Occasion) :
    (s.insertOn o₃ ys).2.outcome = .ok () ∧
      ((s.insertOn o₃ ys).1.insertOn o₄ xs).2.outcome = .ok () ∧
      ((s.insertOn o₁ xs).1.insertOn o₂ ys).1.Resembles
      ((s.insertOn o₃ ys).1.insertOn o₄ xs).1 := by
  obtain ⟨holds₁, open₁, names₁⟩ := holds.insertOn ok₁
  obtain ⟨holds₂, open₂, names₂⟩ := holds₁.insertOn ok₂
  -- whether a batch is stored does not depend on what is there
  have storable₁ := holds.insertOn_ok_iff.1 ok₁
  have storable₂ := holds₁.insertOn_ok_iff.1 ok₂
  rw [open₁] at storable₂
  have ok₃ : (s.insertOn o₃ ys).2.outcome = .ok () := holds.insertOn_ok_iff.2 storable₂
  obtain ⟨holds₃, open₃, names₃⟩ := holds.insertOn ok₃
  rw [← open₃] at storable₁
  have ok₄ : ((s.insertOn o₃ ys).1.insertOn o₄ xs).2.outcome = .ok () :=
    holds₃.insertOn_ok_iff.2 storable₁
  obtain ⟨holds₄, open₄, names₄⟩ := holds₃.insertOn ok₄
  refine ⟨ok₃, ok₄, holds₂.resembles holds₄ (fun id => ?_) ?_ fun kind => ?_⟩
  · rw [List.append_assoc, List.append_assoc, lastWith?_append, lastWith?_append_comm apart,
      ← lastWith?_append]
  · rw [open₂, open₁, open₄, open₃]
  · rw [names₂, names₁, names₄, names₃, Set.union_right_comm]

/-- A batch in which no id stands twice is stored in any order, and what is shown is the same. -/
theorem Holds.insertOn_perm (holds : s.Holds ledger) {batch' : List Submission}
    (perm : batch.Perm batch') (nodup : (batch.map (·.id)).Nodup)
    (ok : (s.insertOn o batch).2.outcome = .ok ()) (o' : Occasion) :
    (s.insertOn o' batch').2.outcome = .ok () ∧
      (s.insertOn o batch).1.Resembles (s.insertOn o' batch').1 := by
  obtain ⟨holds₁, open₁, names₁⟩ := holds.insertOn ok
  have storable := holds.insertOn_ok_iff.1 ok
  have ok' : (s.insertOn o' batch').2.outcome = .ok () := by
    refine holds.insertOn_ok_iff.2 ?_
    rcases storable with rfl | ⟨opened, all⟩
    · exact .inl perm.symm.eq_nil
    · exact .inr ⟨opened, fun b mem => all b (perm.mem_iff.2 mem)⟩
  obtain ⟨holds₂, open₂, names₂⟩ := holds.insertOn ok'
  refine ⟨ok', holds₁.resembles holds₂ (fun id => ?_) (open₁.trans open₂.symm) fun kind => ?_⟩
  · rw [lastWith?_append, lastWith?_append, lastWith?_perm nodup perm]
  · simp only [names₁, names₂, perm.mem_iff]

end Session

/-- Two batches without a common id may be stored in either order, and one in which no id stands
twice may be stored in any order. If the only writer of a library can do it in one order, it can do
it in the other one, on whatever occasions, and what is shown is the same but for times and numbers
of names. -/
theorem Log.inserts_commute {s : Session} (settings : Settings) (threshold : Int)
    (calls : List Call) (follows : s.Follows ((start settings threshold).run calls))
    (o₁ o₂ o₃ o₄ : Occasion) :
    (∀ xs ys : List Submission, (∀ x ∈ xs, ∀ y ∈ ys, x.id ≠ y.id) →
      let first := s.insertOn o₁ xs
      let forth := first.1.insertOn o₂ ys
      let first' := s.insertOn o₃ ys
      let back := first'.1.insertOn o₄ xs
      first.2.outcome = .ok () → forth.2.outcome = .ok () →
        first'.2.outcome = .ok () ∧ back.2.outcome = .ok () ∧ forth.1.Resembles back.1) ∧
      ∀ batch batch' : List Submission, batch.Perm batch' → (batch.map (·.id)).Nodup →
        (s.insertOn o₁ batch).2.outcome = .ok () →
          (s.insertOn o₂ batch').2.outcome = .ok () ∧
            (s.insertOn o₁ batch).1.Resembles (s.insertOn o₂ batch').1 := by
  have holds := follows.holds (faithful_run settings threshold calls)
  constructor
  · intro xs ys apart first forth first' back ok₁ ok₂
    exact holds.insertOn_comm apart ok₁ ok₂ o₃ o₄
  · intro batch batch' perm nodup ok
    exact holds.insertOn_perm perm nodup ok o₂

/-- Two books share an author, and each of them comes first once. The authors get other numbers
then, and nothing else is different. -/
theorem Log.shared_authors_commute :
    let s := (start { journal := .memory } defaultThreshold).session
    let xs : List Submission :=
      [{ id := "a", title := some "T", authors := some [some "Ann", some "Bob"] }]
    let ys : List Submission :=
      [{ id := "b", title := some "T", authors := some [some "Cid", some "Bob"] }]
    let forth := ((s.insertOn { now := "2024-01-01" } xs).1.insertOn { now := "2024-01-02" } ys).1
    let back := ((s.insertOn { now := "2024-01-03" } ys).1.insertOn { now := "2024-01-04" } xs).1
    forth.library.authors.rows = [⟨1, "Ann"⟩, ⟨2, "Bob"⟩, ⟨3, "Cid"⟩] ∧
      back.library.authors.rows = [⟨1, "Cid"⟩, ⟨2, "Bob"⟩, ⟨3, "Ann"⟩] ∧ forth.Resembles back ∧
      (s.insertOn { now := "2024-01-01" } (xs ++ ys)).1.Resembles
        (s.insertOn { now := "2024-01-02" } (ys ++ xs)).1 := by
  intro s xs ys forth back
  obtain ⟨commute, permute⟩ :=
    inserts_commute { journal := .memory } defaultThreshold [] (s := s) ⟨rfl, id⟩
    { now := "2024-01-01" } { now := "2024-01-02" } { now := "2024-01-03" } { now := "2024-01-04" }
  obtain ⟨-, -, resembles⟩ := commute xs ys (by decide) (by decide +kernel) (by decide +kernel)
  obtain ⟨-, resembles'⟩ :=
    permute (xs ++ ys) (ys ++ xs) List.perm_append_comm (by decide) (by decide +kernel)
  exact ⟨by decide +kernel, by decide +kernel, resembles, resembles'⟩

end BookCatalog
