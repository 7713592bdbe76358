import BookCatalog.Text.Runs
import Mathlib

/-!
# Runs of characters

How a text is cut into the runs of a class: a character outside the class separates
(`runs_append_sep`), a text inside the class is one run (`runs_of_all`), and only the class of the
characters that occur matters (`runs_congr`).
-/

namespace BookCatalog.Text

variable {p q : Char → Bool} {c : Char} {cs : List Char}

/-- The finished runs stay in front. -/
lemma runsFrom_done (done : List (List Char)) (run : List Char) (cs : List Char) :
    runsFrom p done run cs = done.reverse ++ runsFrom p [] run cs := by
  induction cs generalizing done run with
  | nil =>
    rw [runsFrom, runsFrom, closeRun, closeRun]
    split <;> simp
  | cons c rest ih =>
    rw [runsFrom, runsFrom]
    split
    · exact ih done (c :: run)
    · rw [ih (closeRun run done), ih (closeRun run []), closeRun, closeRun]
      split <;> simp

/-- The texts on both sides of a separator are cut apart. -/
lemma runs_append_sep (sep : p c = false) (before after : List Char) :
    runs p (before ++ c :: after) = runs p before ++ runs p after := by
  -- for whatever runs are closed and open when `before` begins
  suffices all : ∀ done run, runsFrom p done run (before ++ c :: after) =
      runsFrom p done run before ++ runs p after from all [] []
  induction before with
  | nil =>
    intro done run
    have cut : runsFrom p done run (c :: after) = runsFrom p (closeRun run done) [] after := by
      rw [runsFrom, sep]
      rfl
    rw [List.nil_append, cut, runsFrom_done]
    rfl
  | cons d before ih =>
    intro done run
    rw [List.cons_append, runsFrom, runsFrom]
    split
    · exact ih done (d :: run)
    · exact ih (closeRun run done) []

@[simp] lemma runs_nil : runs p [] = [] := rfl

/-- Texts are cut apart where the first one does not end in the class. -/
lemma runs_append_of_last {before : List Char} (outside : ∀ c ∈ before.getLast?, p c = false)
    (after : List Char) : runs p (before ++ after) = runs p before ++ runs p after := by
  rcases List.eq_nil_or_concat before with rfl | ⟨front, c, rfl⟩
  · rfl
  · have sep : p c = false := outside c (by rw [List.concat_eq_append, List.getLast?_concat]; rfl)
    rw [List.concat_eq_append, List.append_assoc, List.singleton_append, runs_append_sep sep,
      runs_append_sep sep, runs_nil, List.append_nil]

/-- Texts are cut apart where the second one does not begin in the class. -/
lemma runs_append_of_head {after : List Char} (outside : ∀ c ∈ after.head?, p c = false)
    (before : List Char) : runs p (before ++ after) = runs p before ++ runs p after := by
  cases after with
  | nil => rw [List.append_nil, runs_nil, List.append_nil]
  | cons c after =>
    have sep : p c = false := outside c rfl
    have front := runs_append_sep sep [] after
    rw [List.nil_append, runs_nil, List.nil_append] at front
    rw [runs_append_sep sep, front]

/-- A text inside the class is one run. -/
lemma runs_of_all (all : ∀ c ∈ cs, p c = true) (ne : cs ≠ []) : runs p cs = [cs] := by
  have open_ : ∀ run, runsFrom p [] run cs = (closeRun (cs.reverse ++ run) []).reverse := by
    clear ne
    induction cs with
    | nil => exact fun run => rfl
    | cons c rest ih =>
      intro run
      rw [runsFrom, if_pos (all c List.mem_cons_self),
        ih (fun d mem => all d (List.mem_cons_of_mem c mem))]
      simp
  rw [runs, open_, closeRun, if_neg (by simpa using ne)]
  simp

/-- Only the class of the characters that occur matters. -/
lemma runs_congr (same : ∀ c ∈ cs, p c = q c) : runs p cs = runs q cs := by
  suffices all : ∀ done run, runsFrom p done run cs = runsFrom q done run cs from all [] []
  induction cs with
  | nil => exact fun done run => rfl
  | cons c rest ih =>
    intro done run
    have rest := ih fun d mem => same d (List.mem_cons_of_mem c mem)
    rw [runsFrom, runsFrom, same c List.mem_cons_self, rest, rest]

/-- Closing adds the open run, unless it is empty. -/
lemma mem_closeRun {run r : List Char} {done : List (List Char)} (mem : r ∈ closeRun run done) :
    r ∈ done ∨ r ≠ [] ∧ r = run.reverse := by
  rw [closeRun] at mem
  split at mem
  case isTrue => exact .inl mem
  case isFalse some =>
    refine (List.mem_cons.1 mem).symm.imp_right fun e => ⟨?_, e⟩
    simpa [e] using some

/-- Runs are not empty, and consist of characters of the class. -/
lemma of_mem_runsFrom {run r : List Char} {done : List (List Char)}
    (mem : r ∈ runsFrom p done run cs) (inside : ∀ c ∈ run, p c = true) :
    r ∈ done ∨ r ≠ [] ∧ ∀ c ∈ r, p c = true ∧ (c ∈ run ∨ c ∈ cs) := by
  induction cs generalizing done run with
  | nil =>
    rw [runsFrom, List.mem_reverse] at mem
    refine (mem_closeRun mem).imp_right fun ⟨ne, e⟩ => ⟨ne, fun c listed => ?_⟩
    have own : c ∈ run := List.mem_reverse.1 (e ▸ listed)
    exact ⟨inside c own, .inl own⟩
  | cons d rest ih =>
    rw [runsFrom] at mem
    split at mem
    case isTrue member =>
      have grown : ∀ c ∈ d :: run, p c = true := List.forall_mem_cons.2 ⟨member, inside⟩
      refine (ih mem grown).imp_right fun ⟨ne, all⟩ => ⟨ne, fun c listed => ?_⟩
      obtain ⟨member, old⟩ := all c listed
      simp only [List.mem_cons] at old ⊢
      tauto
    case isFalse =>
      rcases ih mem (by simp) with closed | ⟨ne, all⟩
      · refine (mem_closeRun closed).imp_right fun ⟨ne, e⟩ => ⟨ne, fun c listed => ?_⟩
        have own : c ∈ run := List.mem_reverse.1 (e ▸ listed)
        exact ⟨inside c own, .inl own⟩
      · refine .inr ⟨ne, fun c listed => ⟨(all c listed).1, .inr ?_⟩⟩
        exact List.mem_cons_of_mem d ((all c listed).2.resolve_left List.not_mem_nil)

/-- A run is not empty, and its characters are those of the text that are in the class. -/
lemma of_mem_runs {run : List Char} (mem : run ∈ runs p cs) :
    run ≠ [] ∧ ∀ c ∈ run, p c = true ∧ c ∈ cs := by
  obtain ⟨ne, all⟩ := (of_mem_runsFrom mem (by simp)).resolve_left List.not_mem_nil
  exact ⟨ne, fun c listed => ⟨(all c listed).1, (all c listed).2.resolve_left List.not_mem_nil⟩⟩

end BookCatalog.Text
