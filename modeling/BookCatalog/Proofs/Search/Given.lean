import BookCatalog.Library.Session
import BookCatalog.Proofs.Library.Handing

/-!
# Searches for texts of characters

A filter, whose texts are all of characters, is handed over as it is, so that it makes no difference
whether a search is asked for it or for what is handed over (`Session.searchGiven_given`). The same
holds for the id of a book (`Session.getGiven_ofText`). Where a query with halves is looked for as
it stands, the halves come back in the pattern in the place of the replacement characters that stand
for them (`Given.restore_shown`).
-/

namespace BookCatalog

/-! ## Symbols put back -/

namespace Given

variable {marks symbols : List Symbol} {cs : List Char}

/-- The symbols of a text come back in it, if they are those that replacement characters stand
for. -/
theorem restore_shown (symbols : List Symbol) :
    restore (symbols.filter (·.shown = Text.replacement)) (symbols.map Symbol.shown) = symbols := by
  induction symbols with
  | nil => rfl
  | cons s rest ih =>
    by_cases marked : s.shown = Text.replacement
    · rw [List.filter_cons_of_pos (by simpa using marked), List.map_cons, restore,
        if_pos marked, ih]
    · -- only a character is shown as something else than the replacement character
      obtain ⟨c, rfl⟩ : ∃ c, s = .char c := by
        cases s with
        | char c => exact ⟨c, rfl⟩
        | half n => exact absurd rfl marked
      have other : c ≠ Text.replacement := marked
      rw [List.filter_cons_of_neg (by simpa using marked), List.map_cons]
      cases behind : rest.filter (·.shown = Text.replacement) with
      | nil =>
        rw [behind] at ih
        exact congrArg _ ih
      | cons mark others =>
        rw [behind] at ih
        change restore (mark :: others) (c :: _) = _
        rw [restore, if_neg other, ih]

/-- Symbols that are put back show the characters that are there. -/
lemma shown_restore (shown : ∀ s ∈ marks, s.shown = Text.replacement) (cs : List Char) :
    (restore marks cs).map Symbol.shown = cs := by
  fun_induction restore marks cs with
  | case1 => rfl
  | case2 c rest ih => rw [List.map_cons, ih shown]; rfl
  | case3 s others rest ih =>
    obtain ⟨own, others⟩ := List.forall_mem_cons.1 shown
    rw [List.map_cons, ih others, own]
  | case4 s others c rest other ih => rw [List.map_cons, ih shown]; rfl

/-- No halves are put back where there are none among the symbols. -/
lemma encodable_restore (free : ∀ s ∈ marks, s.isHalf = false) (cs : List Char) :
    Encodable ⟨restore marks cs⟩ := by
  change ∀ s ∈ restore marks cs, s.isHalf = false
  fun_induction restore marks cs with
  | case1 => exact nofun
  | case2 c rest ih => exact List.forall_mem_cons.2 ⟨rfl, ih free⟩
  | case3 s others rest ih =>
    obtain ⟨own, others⟩ := List.forall_mem_cons.1 free
    exact List.forall_mem_cons.2 ⟨own, ih others⟩
  | case4 s others c rest other ih => exact List.forall_mem_cons.2 ⟨rfl, ih free⟩

end Given

/-- The symbols that are kept are among those of the query. -/
lemma Query.mem_keptSymbols {pieces : List Segment} {symbols : List Symbol} {s : Symbol}
    (mem : s ∈ keptSymbols pieces symbols) : s ∈ symbols := by
  fun_induction keptSymbols pieces symbols with
  | case1 => cases mem
  | case2 symbols piece rest own behind split ih =>
    rw [List.splitAt_eq, Prod.mk.injEq] at split
    obtain ⟨rfl, rfl⟩ := split
    rcases List.mem_append.1 mem with kept | later
    · split at kept
      · cases kept
      · exact List.mem_of_mem_take kept
    · exact List.mem_of_mem_drop (ih later)

/-- The patterns that are bound are those of the filter, with halves in the place of replacement
characters. -/
lemma GivenFilter.text_patterns (g : GivenFilter) : g.patterns.map Given.text =
    (queryCriteria g.filter.query).flatMap fun
      | .containing text => List.replicate 4 (String.ofList (containsPattern text))
      | _ => [] := by
  have shown : ∀ s ∈ g.marks, s.shown = Text.replacement :=
    fun s mem => of_decide_eq_true (List.mem_filter.1 mem).2
  rw [patterns, List.map_flatMap]
  congr 1
  funext c
  cases c with
  | containing text => rw [List.map_replicate, Given.text, Given.shown_restore shown]
  | _ => rfl

/-! ## Filters -/

namespace Filter

variable (f : Filter)

/-- Handing a filter over loses nothing. -/
@[simp] lemma filter_given : f.given.filter = f := by
  simp [given, GivenFilter.filter, Function.comp_def]

/-- The texts of a filter can be bound. -/
@[simp] lemma fault?_given : f.given.fault? = none := by
  have marks : ∀ s ∈ f.given.marks, s.isHalf = false := fun s mem =>
    Given.encodable_ofText f.query s (Query.mem_keptSymbols (List.mem_of_mem_filter mem))
  have patterns : ∀ g ∈ f.given.patterns, g.fault? = none := by
    intro g mem
    obtain ⟨c, -, own⟩ := List.mem_flatMap.1 mem
    cases c with
    | containing text =>
      rw [List.eq_of_mem_replicate own]
      exact Given.fault?_eq_none_iff.2 (Given.encodable_restore marks _)
    | _ => cases own
  have names : ∀ texts : List String, ∀ g ∈ texts.map Given.ofText, g.fault? = none := by simp
  refine List.findSome?_eq_none_iff.2 ?_
  simp only [GivenFilter.texts, List.forall_mem_append]
  exact ⟨⟨⟨⟨⟨patterns, names _⟩, names _⟩, names _⟩, names _⟩, names _⟩

end Filter

/-- It makes no difference whether a search is asked for a filter or for what is handed over. -/
theorem Session.searchGiven_given (s : Session) (f : Filter) (engine : Engine) :
    s.searchGiven f.given engine = s.search f engine := by
  simp only [searchGiven, Library.searchGiven, f.fault?_given, f.filter_given, search]

/-- It makes no difference whether a book is asked for by a text or by what is handed over. -/
theorem Session.getGiven_ofText (s : Session) (id : String) :
    s.getGiven (.ofText id) = s.getBook id := by
  simp only [getGiven, Library.getGiven, Given.fault?_ofText, Given.text_ofText, getBook]

end BookCatalog
