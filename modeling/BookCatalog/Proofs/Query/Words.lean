import BookCatalog.Proofs.Text.Fields
import BookCatalog.Proofs.Text.Lower
import BookCatalog.Proofs.Text.Runs
import BookCatalog.Query.Word

/-!
# Words of a text

A text is cut into words at every character that is no letter or digit, whatever stands on both
sides of it (`words_append_sep`): each run is put into lowercase on its own, so that a capital sigma
does not look beyond the end of its run. The central notions:

* `IsWord`: a text that is one word, and stands for itself (`IsWord.words_eq`). Every word of a text
  is one (`isWord_of_mem_words`).
* `Separated`: words with separators between them. They are cut apart again (`words_of_separated`).
* `firsts`: what is left of a list of words if only first occurrences are kept.
-/

namespace BookCatalog.Query

open Text

/-- A word: letters and digits that are their own lowercase form. -/
structure IsWord (w : List Char) : Prop where
  ne : w ≠ []
  alnum : ∀ c ∈ w, isAlnum c = true
  lowercase : lower w = w

/-- A text that stands between words: it is not empty and has no letters or digits. -/
structure IsSeparator (cs : List Char) : Prop where
  ne : cs ≠ []
  unlettered : ∀ c ∈ cs, isAlnum c = false

/-- Words joined to a text, with separators of any kind between them. -/
inductive Separated : List (List Char) → List Char → Prop where
  | none :
    Separated [] []
  | one {w} :
    Separated [w] w
  | more {w sep w' ws text} :
    IsSeparator sep →
    Separated (w' :: ws) text →
    Separated (w :: w' :: ws) (w ++ sep ++ text)

/-- The items of a list that do not stand earlier in it. -/
def firsts (ws : List (List Char)) : List (List Char) :=
  (ws.zipIdx.filter fun (w, place) => w ∉ ws.take place).map Prod.fst

variable {w cs gap text before after : List Char} {ws : List (List Char)} {c : Char}

/-! ## Cutting a text -/

/-- An empty text has no words. -/
lemma words_nil : words [] = [] := rfl

/-- No word goes over a character that is no letter or digit. -/
lemma words_append_sep (sep : isAlnum c = false) (before after : List Char) :
    words (before ++ c :: after) = words before ++ words after := by
  rw [words, runs_append_sep sep, List.map_append, List.filter_append, words, words]

/-- What stands in front of the first letter or digit does not matter. -/
lemma words_append_of_unlettered (unlettered : ∀ c ∈ gap, isAlnum c = false) (after : List Char) :
    words (gap ++ after) = words after := by
  induction gap with
  | nil => rfl
  | cons c gap ih =>
    obtain ⟨sep, others⟩ := List.forall_mem_cons.1 unlettered
    have cut := words_append_sep sep [] (gap ++ after)
    rw [List.nil_append, words_nil, List.nil_append] at cut
    rw [List.cons_append, cut, ih others]

/-- A separator cuts a text in two. -/
lemma words_append_separator (separator : IsSeparator gap) (before after : List Char) :
    words (before ++ gap ++ after) = words before ++ words after := by
  obtain ⟨ne, unlettered⟩ := separator
  obtain ⟨c, rest, rfl⟩ := List.exists_cons_of_ne_nil ne
  obtain ⟨sep, others⟩ := List.forall_mem_cons.1 unlettered
  rw [List.append_assoc, List.cons_append, words_append_sep sep, words_append_of_unlettered others]

/-! ## Words in normal form -/

/-- A word of a text is not empty, consists of letters and digits, and is its own lowercase form. -/
lemma isWord_of_mem_words (mem : w ∈ words cs) : IsWord w := by
  rw [words, List.mem_filter] at mem
  obtain ⟨listed, ne⟩ := mem
  obtain ⟨run, -, rfl⟩ := List.mem_map.1 listed
  refine ⟨by simpa using ne, fun c own => (List.mem_filter.1 own).2, ?_⟩
  -- characters are dropped from the lowercase form, which leaves the others as they are
  exact lower_of_small fun c own => small_of_mem_lower (List.mem_filter.1 own).1

/-- A word is read as itself. -/
lemma IsWord.words_eq (word : IsWord w) : words w = [w] := by
  have same : wordOf w = w := by
    rw [wordOf, word.lowercase, List.filter_eq_self]
    exact word.alnum
  rw [words, runs_of_all word.alnum word.ne, List.map_singleton, same]
  exact List.filter_cons_of_pos (by simpa using word.ne)

/-- Words that are joined are cut apart again, whatever separates them. -/
lemma words_of_separated (separated : Separated ws text) (normal : ∀ w ∈ ws, IsWord w) :
    words text = ws := by
  induction separated with
  | none => rfl
  | one => exact (normal _ List.mem_cons_self).words_eq
  | more separator _ ih =>
    obtain ⟨word, others⟩ := List.forall_mem_cons.1 normal
    rw [words_append_separator separator, word.words_eq, ih others, List.singleton_append]

/-- Words that are joined with a separator are separated. -/
lemma separated_joinWith (separator : IsSeparator gap) (ws : List (List Char)) :
    Separated ws (joinWith gap ws) := by
  induction ws with
  | nil => exact .none
  | cons w ws ih =>
    cases ws with
    | nil =>
      rw [joinWith, List.flatMap_nil, List.append_nil]
      exact .one
    | cons w' ws =>
      rw [joinWith_cons]
      exact .more separator ih

/-- The words of a text are in normal form, they are read again from every text that they are joined
to, and every list of words in normal form is read from a text. -/
theorem words_normal (cs : List Char) :
    (∀ w ∈ words cs, IsWord w) ∧
      (∀ text, Separated (words cs) text → words text = words cs) ∧
      ∀ ws, (∀ w ∈ ws, IsWord w) → words (joinWith [' '] ws) = ws := by
  have space : IsSeparator [' '] := ⟨List.cons_ne_nil _ _, List.forall_mem_singleton.2 rfl⟩
  have normal : ∀ w ∈ words cs, IsWord w := fun _ => isWord_of_mem_words
  exact ⟨normal, fun _ separated => words_of_separated separated normal,
    fun ws own => words_of_separated (separated_joinWith space ws) own⟩

/-- The mark that a dotted capital leaves is dropped, and a mark between two words separates
them. -/
theorem dotted_words_normal :
    words ['İ', 'Σ', '_', 'Σ', 'Σ'] = [['i', 'ς'], ['σ', 'ς']] ∧ IsWord ['i', 'ς'] ∧
      words ['i', 'ς', '\u0307', ' ', 'σ', 'ς'] = [['i', 'ς'], ['σ', 'ς']] := by
  have cut : words ['İ', 'Σ', '_', 'Σ', 'Σ'] = [['i', 'ς'], ['σ', 'ς']] := by decide +kernel
  obtain ⟨normal, again, -⟩ := words_normal ['İ', 'Σ', '_', 'Σ', 'Σ']
  rw [cut] at normal again
  have mark : isAlnum '\u0307' = false := by decide +kernel
  have separator : IsSeparator ['\u0307', ' '] :=
    ⟨List.cons_ne_nil _ _, List.forall_mem_cons.2 ⟨mark, List.forall_mem_singleton.2 rfl⟩⟩
  exact ⟨cut, normal _ List.mem_cons_self, again _ (.more separator .one)⟩

/-! ## Repeated words -/

/-- Every word that is not empty stays among the distinct ones. -/
lemma mem_distinct {ws : List (List Char)} (ne : w ≠ []) : w ∈ distinct ws ↔ w ∈ ws := by
  simp [distinct, ne]

/-- Distinct words are not empty, and they are there. -/
lemma ne_nil_of_mem_distinct {ws : List (List Char)} (mem : w ∈ distinct ws) : w ≠ [] ∧ w ∈ ws := by
  simpa [distinct, and_comm] using mem

/-- The last item of a list is a first occurrence if it does not stand in front of it. -/
lemma firsts_concat (ws : List (List Char)) (w : List Char) :
    firsts (ws ++ [w]) = firsts ws ++ if w ∈ ws then [] else [w] := by
  have front : ws.zipIdx.filter (fun (w', place) => w' ∉ (ws ++ [w]).take place) =
      ws.zipIdx.filter fun (w', place) => w' ∉ ws.take place := by
    refine List.filter_congr ?_
    rintro ⟨w', place⟩ mem
    have within : place ≤ ws.length := (List.snd_lt_of_mem_zipIdx mem).le
    simp only [List.take_append_of_le_length within]
  rw [firsts, List.zipIdx_append, List.filter_append, front, List.map_append, ← firsts]
  congr 1
  by_cases earlier : w ∈ ws <;> simp [earlier]

/-- A last item is left out if it is there before. -/
lemma eraseDups_concat (ws : List (List Char)) (w : List Char) :
    (ws ++ [w]).eraseDups = ws.eraseDups ++ if w ∈ ws then [] else [w] := by
  rw [List.eraseDups_append]
  by_cases earlier : w ∈ ws <;> simp [List.removeAll, List.eraseDups_cons, earlier]

/-- First occurrences are kept, in order, and nothing else. -/
lemma distinct_eq_firsts (some : ∀ w ∈ ws, w ≠ []) : distinct ws = firsts ws := by
  have kept : ws.filter (!·.isEmpty) = ws := by
    rw [List.filter_eq_self]
    exact fun w mem => by simpa using some w mem
  rw [distinct, kept]
  clear kept some
  induction ws using List.reverseRecOn with
  | nil => rfl
  | append_singleton ws w ih => rw [eraseDups_concat, firsts_concat, ih]

/-- A text is cut in two at every character that is no letter or digit, and of the words on both
sides the first occurrences are kept. -/
theorem words_apart (sep : isAlnum c = false) (before after : List Char) :
    words (before ++ c :: after) = words before ++ words after ∧
      distinct (words (before ++ c :: after)) = firsts (words before ++ words after) := by
  have cut := words_append_sep sep before after
  refine ⟨cut, ?_⟩
  rw [← cut]
  exact distinct_eq_firsts fun w mem => (isWord_of_mem_words mem).ne

/-- A capital sigma in front of a mark closes its word, although a letter follows behind the
mark. -/
theorem mark_cuts_sigma :
    words ['Α', 'Σ', '\u0301', 'α', 'ς', '-', 'Α'] = [['α', 'ς'], ['α', 'ς'], ['α']] ∧
      distinct (words ['Α', 'Σ', '\u0301', 'α', 'ς', '-', 'Α']) = [['α', 'ς'], ['α']] := by
  have mark : isAlnum '\u0301' = false := by decide +kernel
  obtain ⟨cut, kept⟩ := words_apart mark ['Α', 'Σ'] ['α', 'ς', '-', 'Α']
  have front : words ['Α', 'Σ'] = [['α', 'ς']] := by decide +kernel
  have back : words ['α', 'ς', '-', 'Α'] = [['α', 'ς'], ['α']] := by decide +kernel
  rw [front, back] at cut kept
  exact ⟨cut, kept.trans (by decide)⟩

end BookCatalog.Query
