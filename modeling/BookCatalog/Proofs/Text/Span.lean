import BookCatalog.Text.Span
import Mathlib

/-!
# Tables of code points, looked up

What `covers` finds is in one of the runs (`exists_span`), and in an ascending list it finds
everything that is in one (`covers_of_mem`). `liesIn` compares two lists run by run, so that one
class of characters is seen to be part of another one (`covers_of_liesIn`), and `liesOutside` shows
that two long lists have nothing in common (`apart_of_liesOutside`).
-/

namespace BookCatalog.Text

variable {spans inner outer : List (Nat × Nat)} {span : Nat × Nat} {runs : List CaseRun} {n m : Nat}

/-- The runs begin one behind the other. -/
def Ascending (spans : List (Nat × Nat)) : Prop :=
  (spans.map Prod.fst).IsChain (· ≤ ·)

instance : Decidable (Ascending spans) :=
  inferInstanceAs (Decidable (List.IsChain _ _))

/-- What is covered is in one of the runs. -/
lemma exists_span (covered : covers spans n = true) : ∃ span ∈ spans, span.1 ≤ n ∧ n ≤ span.2 := by
  induction spans with
  | nil => cases covered
  | cons first rest ih =>
    rw [covers] at covered
    split at covered
    case isTrue => cases covered
    case isFalse above =>
      rw [Bool.or_eq_true] at covered
      rcases covered with inside | later
      · exact ⟨first, List.mem_cons_self, not_lt.1 above, of_decide_eq_true inside⟩
      · obtain ⟨span, mem, inside⟩ := ih later
        exact ⟨span, List.mem_cons_of_mem _ mem, inside⟩

/-- In an ascending list everything that is in a run is covered. -/
lemma covers_of_mem (ascending : Ascending spans) (mem : span ∈ spans) (above : span.1 ≤ n)
    (below : n ≤ span.2) : covers spans n = true := by
  -- a run that begins above `n` ends the search, and no run before the one around `n` does
  have ordered : (spans.map Prod.fst).Pairwise (· ≤ ·) := List.isChain_iff_pairwise.1 ascending
  clear ascending
  induction spans with
  | nil => cases mem
  | cons first rest ih =>
    rw [List.map_cons, List.pairwise_cons] at ordered
    rw [covers]
    rcases List.mem_cons.1 mem with rfl | later
    · rw [if_neg (not_lt.2 above), decide_eq_true below, Bool.true_or]
    · have reached : first.1 ≤ n :=
        (ordered.1 span.1 (List.mem_map_of_mem later)).trans above
      rw [if_neg (not_lt.2 reached), ih later ordered.2, Bool.or_true]

/-- Every run of the second list lies in a run of the first one; both are ascending. -/
def liesIn (outer : List (Nat × Nat)) : List (Nat × Nat) → Bool
  | [] => true
  | (first, last) :: rest =>
    match outer.dropWhile (·.2 < first) with
    | [] => false
    | (start, stop) :: more =>
      start ≤ first && last ≤ stop && liesIn ((start, stop) :: more) rest

/-- Every run of the second list lies in a run of the first one. -/
lemma exists_outer (lies : liesIn outer inner = true) (mem : span ∈ inner) :
    ∃ span' ∈ outer, span'.1 ≤ span.1 ∧ span.2 ≤ span'.2 := by
  induction inner generalizing outer with
  | nil => cases mem
  | cons first rest ih =>
    rw [liesIn] at lies
    split at lies
    case h_1 => cases lies
    case h_2 start stop more left =>
      have part : ((start, stop) :: more).Sublist outer := left ▸ List.dropWhile_sublist _
      simp only [Bool.and_eq_true, decide_eq_true_eq] at lies
      obtain ⟨⟨begins, ends⟩, others⟩ := lies
      rcases List.mem_cons.1 mem with rfl | later
      · exact ⟨_, part.subset List.mem_cons_self, begins, ends⟩
      · obtain ⟨span', mem', around⟩ := ih others later
        exact ⟨span', part.subset mem', around⟩

/-- A class whose runs lie in those of another class is part of it. -/
lemma covers_of_liesIn (ascending : Ascending outer) (lies : liesIn outer inner = true)
    (covered : covers inner n = true) : covers outer n = true := by
  obtain ⟨span, mem, above, below⟩ := exists_span covered
  obtain ⟨span', mem', begins, ends⟩ := exists_outer lies mem
  exact covers_of_mem ascending mem' (begins.trans above) (below.trans ends)

/-- Two classes without a common character. -/
def Apart (spans spans' : List (Nat × Nat)) : Prop :=
  ∀ span ∈ spans, ∀ span' ∈ spans', span.2 < span'.1 ∨ span'.2 < span.1

instance : Decidable (Apart inner outer) :=
  inferInstanceAs (Decidable (∀ _ ∈ _, _))

/-- What is in one of two classes without a common character is not in the other. -/
lemma Apart.not_covers (apart : Apart inner outer) (covered : covers inner n = true) :
    covers outer n = false := by
  rw [← Bool.not_eq_true]
  intro covered'
  obtain ⟨span, mem, above, below⟩ := exists_span covered
  obtain ⟨span', mem', above', below'⟩ := exists_span covered'
  rcases apart span mem span' mem' with before | behind <;> omega

/-- No run of the second list meets a run of the first one; both are ascending. -/
def liesOutside (outer : List (Nat × Nat)) : List (Nat × Nat) → Bool
  | [] => true
  | (first, last) :: rest =>
    match outer.dropWhile (·.2 < first) with
    | [] => true
    | (start, stop) :: more => last < start && liesOutside ((start, stop) :: more) rest

/-- Runs that are passed over end before all runs that are still to come, and those that are left
begin behind the run that is looked at. -/
lemma apart_of_liesOutside (ascending : Ascending outer) (ascending' : Ascending inner)
    (lies : liesOutside outer inner = true) : Apart inner outer := by
  have ordered : (outer.map Prod.fst).Pairwise (· ≤ ·) := List.isChain_iff_pairwise.1 ascending
  have ordered' : (inner.map Prod.fst).Pairwise (· ≤ ·) := List.isChain_iff_pairwise.1 ascending'
  clear ascending ascending'
  induction inner generalizing outer with
  | nil => exact nofun
  | cons first rest ih =>
    rw [List.map_cons, List.pairwise_cons, List.forall_mem_map] at ordered'
    obtain ⟨begins, ordered'⟩ := ordered'
    have passed : ∀ span' ∈ outer.takeWhile (·.2 < first.1), span'.2 < first.1 :=
      fun span' mem => by simpa using List.mem_takeWhile_imp mem
    have parts :=
      List.takeWhile_append_dropWhile (p := fun span : Nat × Nat => span.2 < first.1) (l := outer)
    rw [liesOutside] at lies
    intro span mem span' mem'
    rw [← parts, List.mem_append] at mem'
    rcases mem' with early | late
    · have before := passed span' early
      rcases List.mem_cons.1 mem with rfl | later
      · exact .inr before
      · exact .inr (before.trans_le (begins span later))
    · split at lies
      case h_1 none =>
        rw [none] at late
        cases late
      case h_2 start stop more left =>
        rw [← parts, left, List.map_append, List.pairwise_append] at ordered
        rw [left] at late
        simp only [Bool.and_eq_true, decide_eq_true_eq] at lies
        rcases List.mem_cons.1 mem with rfl | later
        · rcases List.mem_cons.1 late with rfl | behind
          · exact .inl lies.1
          · have above := (List.pairwise_cons.1 ordered.2.1).1 _ (List.mem_map_of_mem behind)
            exact .inl (lies.1.trans_le above)
        · exact ih lies.2 ordered.2.1 ordered' span later span' late

/-! ## Moved characters -/

/-- The code points that a list of case runs leads to. -/
def targets (runs : List CaseRun) : List (Nat × Nat) :=
  runs.map fun run => ((run.first + run.offset).toNat, (run.last + run.offset).toNat)

/-- The code points that a case run moves. -/
def CaseRun.places (run : CaseRun) : List (Nat × Nat) :=
  if run.step = 1 then [(run.first, run.last)]
  else (List.range ((run.last - run.first) / run.step + 1)).map fun k =>
    (run.first + run.step * k, run.first + run.step * k)

/-- The code points that a case run leads to, from each of its places. -/
def CaseRun.targets (run : CaseRun) : List (Nat × Nat) :=
  run.places.map fun span => ((span.1 + run.offset).toNat, (span.2 + run.offset).toNat)

/-- A code point is moved by one of the runs, from one of its places. -/
lemma exists_run (moved : shifted? runs n = some m) :
    ∃ run ∈ runs, (run.first ≤ n ∧ n ≤ run.last) ∧ m = ((n : Int) + run.offset).toNat ∧
      ∃ span ∈ run.places, span.1 ≤ n ∧ n ≤ span.2 := by
  induction runs with
  | nil => cases moved
  | cons run rest ih =>
    rw [shifted?] at moved
    split at moved
    · cases moved
    · next above =>
      split at moved
      · next below =>
        split at moved
        · next step =>
          cases moved
          refine ⟨run, List.mem_cons_self, ⟨not_lt.1 above, below⟩, rfl, ?_⟩
          rw [CaseRun.places]
          split
          · exact ⟨_, List.mem_singleton_self _, not_lt.1 above, below⟩
          · -- the code point is so many steps behind the first one
            have steps := Nat.div_add_mod (n - run.first) run.step
            have inside :=
              Nat.div_le_div_right (c := run.step) (Nat.sub_le_sub_right below run.first)
            refine ⟨_, List.mem_map_of_mem (List.mem_range.2 (Nat.lt_succ_of_le inside)), ?_, ?_⟩
            all_goals
              dsimp only
              omega
        · cases moved
      · obtain ⟨run', mem, inside⟩ := ih moved
        exact ⟨run', List.mem_cons_of_mem _ mem, inside⟩

/-- What a code point is moved to is in a run of targets. -/
lemma shifted?_target (moved : shifted? runs n = some m) :
    ∃ span ∈ targets runs, span.1 ≤ m ∧ m ≤ span.2 := by
  obtain ⟨run, mem, ⟨first, last⟩, rfl, -⟩ := exists_run moved
  refine ⟨_, List.mem_map_of_mem mem, ?_, ?_⟩ <;> exact Int.toNat_le_toNat (by omega)

/-- What no place leads to a place of is moved once only. -/
lemma shifted?_of_target
    (apart : Apart (runs.flatMap CaseRun.targets) (runs.flatMap CaseRun.places))
    (moved : shifted? runs n = some m) : shifted? runs m = none := by
  by_contra again
  obtain ⟨m', again⟩ := Option.ne_none_iff_exists'.1 again
  obtain ⟨run, mem, -, target, span, own, above, below⟩ := exists_run moved
  obtain ⟨run', mem', -, -, span', own', above', below'⟩ := exists_run again
  have reached : ((span.1 + run.offset).toNat, (span.2 + run.offset).toNat) ∈
      runs.flatMap CaseRun.targets :=
    List.mem_flatMap.2 ⟨run, mem, List.mem_map_of_mem own⟩
  have place : span' ∈ runs.flatMap CaseRun.places := List.mem_flatMap.2 ⟨run', mem', own'⟩
  have outside := apart _ reached _ place
  dsimp only at outside
  omega

/-- A character that is moved lands in a class only if the class has a target; the code point zero
stands for what is no character. -/
lemma not_covers_shift {c : Char} (apart : Apart (targets runs) spans)
    (zero : covers spans 0 = false)
    (unmoved : covers spans c.toNat = false) : covers spans (shift runs c).toNat = false := by
  rw [shift]
  split
  case h_2 => exact unmoved
  case h_1 m moved =>
    rw [Char.toNat_ofNat]
    split
    case isFalse => exact zero
    case isTrue =>
      rw [← Bool.not_eq_true]
      intro covered
      obtain ⟨span, mem, above, below⟩ := shifted?_target moved
      obtain ⟨span', mem', above', below'⟩ := exists_span covered
      rcases apart span mem span' mem' with before | behind <;> omega

end BookCatalog.Text
