import BookCatalog.Proofs.Query.Leftmost
import BookCatalog.Proofs.Text.Fields

/-!
# Queries without words

A query that has no words is looked for as it stands. What is looked for then has no letters or
digits, and its characters are those of the query, apart from spaces (`mem_fallback`).
-/

namespace BookCatalog

namespace Text

variable {p : Char → Bool} {cs : List Char} {c : Char}

/-- A run that has begun is among the runs. -/
lemma runsFrom_ne_nil {done : List (List Char)} {run : List Char} (started : done ≠ [] ∨ run ≠ []) :
    runsFrom p done run cs ≠ [] := by
  have closed : ∀ {done run}, done ≠ [] ∨ run ≠ [] → closeRun run done ≠ [] := by
    intro done run started
    rw [closeRun]
    split
    · next none => exact started.resolve_right fun some => some (List.isEmpty_iff.1 none)
    · exact List.cons_ne_nil _ _
  induction cs generalizing done run with
  | nil =>
    rw [runsFrom]
    simpa using closed started
  | cons c rest ih =>
    rw [runsFrom]
    split
    · exact ih (.inr (List.cons_ne_nil _ _))
    · exact ih (.inl (closed started))

/-- A text without runs has no character of the class. -/
lemma not_mem_of_runs_nil (none : runs p cs = []) : ∀ c ∈ cs, p c = false := by
  induction cs with
  | nil => exact nofun
  | cons c rest ih =>
    rw [runs, runsFrom] at none
    split at none
    · exact absurd none (runsFrom_ne_nil (.inr (List.cons_ne_nil _ _)))
    · next outside => exact List.forall_mem_cons.2 ⟨by simpa using outside, ih none⟩

/-- Squeezing adds spaces and nothing else. -/
lemma mem_squeeze (mem : c ∈ squeeze cs) : c = ' ' ∨ c ∈ cs := by
  rcases mem_joinWith mem with space | ⟨run, listed, own⟩
  · exact .inl space
  · exact .inr ((of_mem_runs listed).2 c own).2

end Text

namespace Query

open Text

variable {cs : List Char} {c : Char}

/-! ## Words -/

/-- A letter or digit makes a word. -/
lemma wordOf_ne_nil (alnum : isAlnum c = true) (rest : List Char) : wordOf (c :: rest) ≠ [] := by
  have letter : ∃ d ∈ lowerIn [] rest c, isAlnum d = true := by
    by_cases dotted : c = 'İ'
    · subst dotted
      exact ⟨'i', List.mem_cons_self, by decide⟩
    · have some : lowerIn [] rest c ≠ [] := lowerIn_ne_nil
      obtain ⟨d, mem⟩ := List.exists_mem_of_ne_nil _ some
      exact ⟨d, mem, isAlnum_of_mem_lowerIn alnum dotted mem⟩
  obtain ⟨d, mem, letter⟩ := letter
  apply List.ne_nil_of_mem
  rw [wordOf, List.mem_filter]
  refine ⟨?_, letter⟩
  rw [lower_eq_flatten, lowerParts, List.flatten_cons]
  exact List.mem_append_left _ mem

/-- A text without words has no letters or digits. -/
lemma unlettered_of_words_nil (none : words cs = []) : ∀ c ∈ cs, isAlnum c = false := by
  apply not_mem_of_runs_nil
  rw [List.eq_nil_iff_forall_not_mem]
  intro run listed
  obtain ⟨some, letters⟩ := of_mem_runs listed
  cases run with
  | nil => exact some rfl
  | cons c rest =>
    rw [words, List.filter_eq_nil_iff] at none
    have word := wordOf_ne_nil (letters c List.mem_cons_self).1 rest
    exact none _ (List.mem_map_of_mem listed) (by simpa using word)

/-! ## The remainder -/

/-- What is left of a query are characters of the query. -/
lemma mem_remainder (mem : c ∈ (parse cs).remainder) : c ∈ cs := by
  rw [parse] at mem
  split at mem
  · cases mem
  · obtain ⟨s, listed, kept⟩ := List.mem_flatMap.1 mem
    have own : c ∈ s.source := by
      cases s with
      | gap text => exact kept
      | qualifier q =>
        rw [Segment.kept] at kept
        split at kept
        · cases kept
        · exact kept
    rw [← (leftmost_segments cs).2]
    exact List.mem_flatMap.2 ⟨s, listed, own⟩

/-- The words without qualifier are those of what is left of the query. -/
lemma general_eq (cs : List Char) : (parse cs).general = words (parse cs).remainder := by
  rw [parse]
  split <;> rfl

/-! ## What is looked for -/

/-- A query without clauses has no words without qualifier. -/
lemma general_eq_nil (unworded : (parse cs).clauses = []) : (parse cs).general = [] := by
  rw [List.eq_nil_iff_forall_not_mem]
  intro w mem
  obtain ⟨some, -⟩ := (parse_cut cs).general w mem
  have listed : Clause.anywhere w ∈ (parse cs).clauses :=
    mem_clauses.2 (.inl ⟨w, (mem_distinct some).2 mem, rfl⟩)
  rw [unworded] at listed
  cases listed

/-- A query without clauses is looked for as what is left of it. -/
lemma fallback_eq (unworded : (parse cs).clauses = []) :
    (parse cs).fallback = squeeze (parse cs).remainder := by
  rw [fallback, general_eq_nil unworded]
  split
  · next none => exact (List.isEmpty_iff.1 none).symm
  · rfl

/-- The text of a query without words has no letters or digits, and it comes from the query. -/
theorem mem_fallback (unworded : (parse cs).clauses = []) (mem : c ∈ (parse cs).fallback) :
    isAlnum c = false ∧ (c = ' ' ∨ c ∈ cs) := by
  have words : words (parse cs).remainder = [] := general_eq cs ▸ general_eq_nil unworded
  rw [fallback_eq unworded] at mem
  rcases mem_squeeze mem with rfl | own
  · exact ⟨by decide, .inl rfl⟩
  · exact ⟨unlettered_of_words_nil words c own, .inr (mem_remainder own)⟩

end Query

end BookCatalog
