import BookCatalog.Proofs.Search.Containing
import BookCatalog.Proofs.Session.Search

/-!
# Searches without words

A query without words finds the books with a text in which it is seen, whatever is in the library
(`Session.containing_found`). What is seen in a text occurs in it as it is read, case ignored. The
other way round, capitals in circles are not put into lowercase, so that even a title that is what
was asked for may be missed (`circled_letter_lost`).
-/

namespace BookCatalog

open Text (lower isCircled lowerChar)

/-- The pages that a search gives list parts of a list of ids, which is counted as a whole. -/
def Session.ListsIds (s : Session) (f : Filter) (ids : List String) : Prop :=
  ∀ limit offset, fitsColumn (pageLimit limit) = true → fitsColumn (pageOffset offset) = true →
    ∃ page, s.search { f with limit, offset } = .ok page ∧ page.total = ids.length ∧
      page.items.map (·.id) = slice (pageLimit limit) (pageOffset offset) ids

/-- A query without words finds exactly the books with a text in which it is seen. It is seen only
where it occurs with case ignored, U+FFFE and U+FFFF being read as U+FFFD, and everywhere there,
unless the text has a U+0000 or it comes from one of the capitals that have no lowercase form for
the search. -/
theorem Session.containing_found {s : Session} {lib : Library} {f : Filter} {t : List Char}
    (opened : s.opened = .ok lib) (ready : lib.Ready) (looks : f.LooksFor t) :
    ∃ ids : List String,
      s.ListsIds f ids ∧ ((lib.books.map (·.id)).Nodup → ids.Nodup) ∧
      (∀ id, id ∈ ids ↔ ∃ b ∈ lib.books, b.id = id ∧ ∃ text ∈ lib.textsOf b, Seen t text.toList) ∧
      (∀ text, Seen t text → (lower t).map Pattern.readAs <:+: lower (text.map Pattern.readAs)) ∧
      (∀ text, '\x00' ∉ text →
        (∀ c ∈ text, c = 'İ' ∨ isCircled c = true → ∀ d ∈ lowerChar c, d ∉ lower t) →
          lower t <:+: lower text → Seen t text) ∧
      ((∀ c ∈ t, isCircled c = false) → ∀ text, '\x00' ∉ text → t <:+: text → Seen t text) := by
  refine ⟨(lib.found f.plan).map (·.book.id), ?_,
    Library.found_ids_nodup_of_authors looks.usesAuthors, fun id => ?_, fun text =>
      looks.lower_infix_of_seen, fun text => looks.seen_of_lower_infix, ?_⟩
  · intro limit offset limited skipped
    have same : ({ f with limit, offset } : Filter).LooksFor t := { looks with }
    obtain ⟨page, ok, total, ids⟩ := Library.search_containing ready same limited skipped
    refine ⟨page, ?_, ?_, ids⟩
    · rw [Session.search, opened]
      exact ok
    · rw [total, List.length_map]
      rfl
  · simp only [Library.mem_found_ids, Library.selects_containing looks]
  · intro small text free occurs
    rw [Seen, looks.lower_eq_self small, Pattern.terminated_of_free free]
    exact occurs.map Pattern.readAs

/-- A title that is one capital in a circle is not found by itself. -/
theorem circled_letter_lost :
    let s : Submission := { id := "b", title := some "Ⓐ" }
    let f : Filter := { query := "Ⓐ" }
    let log := (Log.start { journal := .memory } defaultThreshold).run (Log.shelved s)
    let lib := log.session.content
    log.session.opened = .ok lib ∧ lib.Ready ∧ f.LooksFor ['Ⓐ'] ∧
      lib.books.map (fun b => (b.id, lib.textsOf b)) = [("b", ["Ⓐ", ""])] ∧
      ∃ ids, log.session.ListsIds f ids ∧ "b" ∉ ids := by
  intro s f log lib
  have faithful : log.Faithful := Log.faithful_run _ _ _
  have looks : f.LooksFor ['Ⓐ'] :=
    { free := by decide
      nonblank := by decide +kernel
      unworded := by decide +kernel
      fallback := by decide +kernel
      ne := by decide
      simple := by decide +kernel
      unnamed := ⟨rfl, rfl, rfl, rfl, rfl⟩
      undated := ⟨le_rfl, le_rfl⟩ }
  have stored : lib.books.map (fun b => (b.id, lib.textsOf b)) = [("b", ["Ⓐ", ""])] := by
    decide +kernel
  obtain ⟨ids, lists, -, found, -⟩ :=
    Session.containing_found faithful.opened_eq faithful.ready looks
  refine ⟨faithful.opened_eq, faithful.ready, looks, stored, ids, lists, fun listed => ?_⟩
  obtain ⟨b, mem, -, text, own, seen⟩ := (found "b").1 listed
  have only := List.mem_map_of_mem (f := fun b => (b.id, lib.textsOf b)) mem
  rw [stored, List.mem_singleton] at only
  have texts : lib.textsOf b = ["Ⓐ", ""] := congrArg Prod.snd only
  have unseen : ∀ text ∈ ["Ⓐ", ""], ¬ Seen ['Ⓐ'] text.toList := by decide +kernel
  exact unseen text (texts ▸ own) seen

end BookCatalog
