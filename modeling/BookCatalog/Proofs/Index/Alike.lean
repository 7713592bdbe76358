import BookCatalog.Proofs.Index.Words

/-!
# Texts that are cut alike

Queries and the index cut texts by different tables, and fold letters by different ones. `CutAlike`
says of a character that this makes no difference: a text of such characters has the same words in
both (`words_alike`).
-/

namespace BookCatalog

open Text

namespace Index

variable {cs before after out : List Char} {c d : Char}

/-- Queries and the index treat a character alike: either both take it to be part of a word, and its
lowercase form is part of a word in the index and folded to what the character itself is folded to,
or neither does. -/
def CutAlike (c : Char) : Prop :=
  if isAlnum c then
    (c :: (lowerChar c).filter isAlnum).all isWordPart = true ∧
      ((lowerChar c).filter isAlnum).filterMap fold? = (fold? c).toList
  else isWordPart c = false ∧ isDiacritic c = false

instance (c : Char) : Decidable (CutAlike c) :=
  inferInstanceAs (Decidable (if isAlnum c then _ = _ ∧ _ = _ else _ ∧ _))

/-- What the tables say about the two small sigmas. -/
lemma sigma_facts : fold? 'Σ' = some 'σ' ∧
    (isAlnum 'ς' = true ∧ isWordPart 'ς' = true ∧ fold? 'ς' = some 'σ') ∧
    (isAlnum 'σ' = true ∧ isWordPart 'σ' = true ∧ fold? 'σ' = some 'σ') := by
  decide +kernel

/-- Both small sigmas are letters and folded like the capital, so that it does not matter which one
a capital becomes. -/
lemma fold_sigma (closing : Bool) :
    ([if closing then 'ς' else 'σ'].filter isAlnum).filterMap fold? = (fold? 'Σ').toList := by
  obtain ⟨capital, ⟨final_alnum, -, final⟩, inner_alnum, -, inner⟩ := sigma_facts
  cases closing with
  | true => simp [final_alnum, final, capital]
  | false => simp [inner_alnum, inner, capital]

/-- A letter or digit that is treated alike is part of a word of the index. -/
lemma CutAlike.isWordPart (alike : CutAlike c) (alnum : isAlnum c = true) :
    isWordPart c = true := by
  rw [CutAlike, if_pos alnum] at alike
  exact List.all_eq_true.1 alike.1 c List.mem_cons_self

/-- So is every letter or digit of its lowercase form. -/
lemma isWordPart_of_mem_lowerIn (alike : CutAlike c) (alnum : isAlnum c = true)
    (mem : d ∈ lowerIn before after c) (letter : isAlnum d = true) : isWordPart d = true := by
  rw [lowerIn] at mem
  split at mem
  case isTrue =>
    obtain ⟨-, ⟨-, final, -⟩, -, inner, -⟩ := sigma_facts
    cases List.mem_singleton.1 mem
    split
    · exact final
    · exact inner
  case isFalse =>
    rw [CutAlike, if_pos alnum] at alike
    exact List.all_eq_true.1 alike.1 d (List.mem_cons_of_mem _ (List.mem_filter.2 ⟨mem, letter⟩))

/-- A letter that both treat alike is folded in lower case to what it is folded to itself, in any
surroundings. -/
lemma fold_lowerIn (alike : CutAlike c) (alnum : isAlnum c = true) :
    ((lowerIn before after c).filter isAlnum).filterMap fold? = (fold? c).toList := by
  rw [lowerIn]
  split
  case isTrue sigma =>
    subst sigma
    exact fold_sigma (closesWord before after)
  case isFalse =>
    rw [CutAlike, if_pos alnum] at alike
    exact alike.2

/-- The same for all letters of a word. -/
lemma fold_lowerFrom (alike : ∀ c ∈ cs, CutAlike c) (alnum : ∀ c ∈ cs, isAlnum c = true) :
    ((lowerFrom out before cs).filter isAlnum).filterMap fold? =
      (out.reverse.filter isAlnum).filterMap fold? ++ cs.filterMap fold? := by
  -- by induction on what is still to be lowered, for whatever stands before it
  induction cs generalizing out before with
  | nil => simp [lowerFrom]
  | cons c rest ih =>
    rw [List.forall_mem_cons] at alike alnum
    rw [lowerFrom, ih alike.2 alnum.2, List.reverse_append, List.reverse_reverse,
      List.filter_append, List.filterMap_append, fold_lowerIn alike.1 alnum.1, List.append_assoc]
    congr 1
    cases kept : fold? c <;> simp [kept]

/-- A word of letters and digits that are treated alike is the same for queries and the index. -/
lemma folded_wordOf (alike : ∀ c ∈ cs, CutAlike c) (alnum : ∀ c ∈ cs, isAlnum c = true) :
    folded (Query.wordOf cs) = folded cs := by
  rw [folded, Query.wordOf, lower, fold_lowerFrom alike alnum]
  rfl

/-- Queries and the index cut such a text at the same places. -/
lemma runs_alike (alike : ∀ c ∈ cs, CutAlike c) :
    runs isAlnum cs = runs (fun c => isWordPart c || isDiacritic c) cs := by
  refine runs_congr fun c own => ?_
  cases alnum : isAlnum c with
  | true => rw [(alike c own).isWordPart alnum, Bool.true_or]
  | false =>
    have treated := alike c own
    rw [CutAlike, if_neg (by rw [alnum]; decide)] at treated
    rw [treated.1, treated.2, Bool.or_false]

/-- The words of a text whose characters are treated alike are found in the text: they are words of
it in the index. -/
theorem words_alike (alike : ∀ c ∈ cs, CutAlike c) {w : List Char} (mem : w ∈ Query.words cs) :
    words w = [folded w] ∧ folded w ∈ words cs := by
  obtain ⟨ne, alnum, -⟩ := Query.isWord_of_mem_words mem
  obtain ⟨listed, -⟩ := List.mem_filter.1 mem
  obtain ⟨run, cut, rfl⟩ := List.mem_map.1 listed
  obtain ⟨-, inside⟩ := of_mem_runs cut
  have same : folded (Query.wordOf run) = folded run :=
    folded_wordOf (fun c own => alike c (inside c own).2) fun c own => (inside c own).1
  have whole : wordOf run = folded run :=
    wordOf_eq_folded fun c own => (alike c (inside c own).2).isWordPart (inside c own).1
  constructor
  · refine words_of_isAlnum ne alnum fun d own => ?_
    obtain ⟨c, own, before, after, became⟩ := exists_of_mem_lower (List.mem_filter.1 own).1
    exact isWordPart_of_mem_lowerIn (alike c (inside c own).2) (inside c own).1 became (alnum d ‹_›)
  · rw [words, ← runs_alike alike, List.mem_filter]
    refine ⟨List.mem_map.2 ⟨run, cut, whole.trans same.symm⟩, ?_⟩
    simpa using folded_ne_nil ne alnum

/-! ## Joined texts -/

/-- A blank divides the words of the index. -/
lemma words_append_blank (before after : List Char) :
    words (before ++ ' ' :: after) = words before ++ words after := by
  have sep : (isWordPart ' ' || isDiacritic ' ') = false := rfl
  rw [words, runs_append_sep sep, List.map_append, List.filter_append, words, words]

/-- Names that are joined keep their words. -/
lemma words_subset_intercalate {names : List String} {name : String} (mem : name ∈ names) :
    words name.toList ⊆ words (String.intercalate " " names).toList := by
  induction names with
  | nil => cases mem
  | cons first rest ih =>
    by_cases alone : rest = []
    · subst alone
      rw [List.mem_singleton.1 mem, String.intercalate_singleton]
      exact List.Subset.refl _
    · have joined : (String.intercalate " " (first :: rest)).toList =
          first.toList ++ ' ' :: (String.intercalate " " rest).toList := by
        rw [String.intercalate_cons_of_ne_nil alone, String.toList_append, String.toList_append,
          List.append_assoc]
        rfl
      rw [joined, words_append_blank]
      rcases List.mem_cons.1 mem with rfl | later
      · exact List.subset_append_left _ _
      · exact List.subset_append_of_subset_right _ (ih later)

end Index

end BookCatalog
