import BookCatalog.Proofs.Query.Quoted
import BookCatalog.Proofs.Text.Lower

/-!
# What is read as a qualifier

What is read at the front of a text is the name of a column, a colon and a value that is not empty
(`of_at?`, `isSome_at?_iff`). The name is part of a word. The value ends outside a word, or there is
a blank or nothing behind it (`ends_of_at?`). A space and a text without quotes that are put behind
change nothing (`at?_append`).
-/

namespace BookCatalog.Query

open Text

variable {cs front back text letters name behind w : List Char} {letter c : Char} {q : Qualifier}
  {entry : List Char × Column} {n m : Nat}

/-! ## Ends of words -/

@[simp] lemma endsInWord_nil : endsInWord [] = false := rfl

/-- A text ends in a word if its last character is part of one. -/
@[simp] lemma endsInWord_concat (cs : List Char) (c : Char) :
    endsInWord (cs ++ [c]) = isWordChar c := by
  rw [endsInWord, List.getLast?_concat]

/-- How a text ends is seen at its last part. -/
lemma endsInWord_append (ne : text ≠ []) : endsInWord (front ++ text) = endsInWord text := by
  rw [endsInWord, List.getLast?_append_of_ne_nil _ ne]
  rfl

/-- A text that does not end inside a word has no end that does. -/
lemma endsInWord_of_suffix (suffix : text <:+ front) (outside : endsInWord front = false) :
    endsInWord text = false := by
  obtain ⟨before, rfl⟩ := suffix
  by_cases empty : text = []
  · rw [empty, endsInWord_nil]
  · rwa [endsInWord_append empty] at outside

/-! ## Names -/

/-- No letter or digit is a blank. -/
lemma alnum_apart_blank : Apart alnumSpans blankSpans := by decide +kernel

/-- No letter or digit is a space. -/
lemma ne_space_of_alnum (alnum : isAlnum c = true) : c ≠ ' ' := by
  rintro rfl
  cases alnum

/-- The letters of every spelling, and all that counts as one of them, are parts of words. -/
lemma letter_facts : spellings.all (fun entry => !entry.1.isEmpty && entry.1.all isAlnum) = true ∧
    lookalikes.all (fun pair => isAlnum pair.1) = true := by
  decide +kernel

/-- What counts as a letter when case is ignored is a letter. -/
lemma isAlnum_of_isLetter (alnum : isAlnum letter = true) (same : isLetter letter c = true) :
    isAlnum c = true := by
  rw [isLetter, Bool.or_eq_true, beq_iff_eq, beq_iff_eq] at same
  rcases same with shifted | alike
  · by_contra other
    have kept := (shift_unlettered (Bool.eq_false_of_not_eq_true other)).1
    rw [shifted, alnum] at kept
    cases kept
  · obtain ⟨before, after, all, -⟩ := List.lookup_eq_some_iff.1 alike
    exact List.all_eq_true.1 letter_facts.2 (c, letter) (by simp [all])

/-- What is read as a spelling consists of letters. -/
lemma alnum_of_spells (alnum : letters.all isAlnum = true) (spelled : spells letters name = true) :
    ∀ c ∈ name, isAlnum c = true := by
  fun_induction spells letters name with
  | case1 => exact List.forall_mem_nil _
  | case2 letter letters c cs ih =>
    rw [List.all_cons, Bool.and_eq_true] at alnum
    rw [Bool.and_eq_true] at spelled
    exact List.forall_mem_cons.2 ⟨isAlnum_of_isLetter alnum.1 spelled.1, ih alnum.2 spelled.2⟩
  | case3 => cases spelled

/-- A name that is read is not empty and consists of letters. -/
lemma name_alnum (listed : entry ∈ spellings) (spelled : spells entry.1 name = true) :
    name ≠ [] ∧ ∀ c ∈ name, isAlnum c = true := by
  have facts := List.all_eq_true.1 letter_facts.1 entry listed
  rw [Bool.and_eq_true, Bool.not_eq_true', List.isEmpty_eq_false_iff] at facts
  refine ⟨?_, alnum_of_spells facts.2 spelled⟩
  rintro rfl
  cases letters : entry.1 with
  | nil => exact facts.1 letters
  | cons letter rest =>
    rw [letters] at spelled
    cases spelled

/-- A spelling is found in front of a colon. -/
lemma of_matchSpelling (found : matchSpelling letters cs = some (name, behind)) :
    cs = name ++ ':' :: behind ∧ spells letters name = true := by
  fun_induction matchSpelling letters cs generalizing name with
  | case1 rest =>
    cases found
    exact ⟨rfl, rfl⟩
  | case2 => cases found
  | case3 => cases found
  | case4 letter letters c rest same ih =>
    obtain ⟨⟨name, behind⟩, later, eq⟩ := Option.map_eq_some_iff.1 found
    cases eq
    obtain ⟨rfl, spelled⟩ := ih later
    exact ⟨rfl, by rw [spells, same, spelled, Bool.true_and]⟩
  | case5 => cases found

/-- A spelling in front of a colon is found. -/
lemma matchSpelling_of_spells (spelled : spells letters name = true) (behind : List Char) :
    matchSpelling letters (name ++ ':' :: behind) = some (name, behind) := by
  fun_induction spells letters name with
  | case1 => rfl
  | case2 letter letters c cs ih =>
    rw [Bool.and_eq_true] at spelled
    rw [List.cons_append, matchSpelling, if_pos spelled.1, ih spelled.2]
    rfl
  | case3 => cases spelled

/-- A space and a word behind do not change which spelling is found. -/
lemma matchSpelling_append (other : letters.all (fun letter => !isLetter letter ' ') = true) :
    matchSpelling letters (cs ++ ' ' :: w) =
      (matchSpelling letters cs).map fun (name, behind) => (name, behind ++ ' ' :: w) := by
  fun_induction matchSpelling letters cs with
  | case1 rest => rfl
  | case2 cs colon =>
    cases cs with
    | nil => rfl
    | cons c cs =>
      rw [List.cons_append, matchSpelling]
      · rfl
      · exact fun rest e => colon cs (by rw [(List.cons.inj e).1])
  | case3 letter letters =>
    rw [List.all_cons, Bool.and_eq_true, Bool.not_eq_true'] at other
    rw [List.nil_append, matchSpelling, other.1]
    rfl
  | case4 letter letters c rest same ih =>
    rw [List.all_cons, Bool.and_eq_true] at other
    rw [List.cons_append, matchSpelling, if_pos same, ih other.2, Option.map_map, Option.map_map]
    rfl
  | case5 letter letters c rest other' =>
    rw [List.cons_append, matchSpelling, if_neg other']
    rfl

/-! ## Values -/

/-- A closing quote is found behind what it closes. -/
lemma of_closingQuote (closed : closingQuote n cs = some m) :
    ∃ inside behind, cs = inside ++ '"' :: behind ∧ m = n + inside.length + 1 := by
  fun_induction closingQuote n cs with
  | case1 => cases closed
  | case2 n behind =>
    cases closed
    exact ⟨[], behind, rfl, rfl⟩
  | case3 => cases closed
  | case4 => cases closed
  | case5 n c rest line ih =>
    obtain ⟨inside, behind, rfl, length⟩ := ih closed
    exact ⟨'\\' :: c :: inside, behind, rfl, by simp only [List.length_cons]; omega⟩
  | case6 n c rest quote last slash ih =>
    obtain ⟨inside, behind, rfl, length⟩ := ih closed
    exact ⟨c :: inside, behind, rfl, by simp only [List.length_cons]; omega⟩

/-- Without quotes there is no closing one. -/
lemma closingQuote_eq_none (quote : '"' ∉ cs) (n : Nat) : closingQuote n cs = none := by
  cases closed : closingQuote n cs with
  | none => rfl
  | some m =>
    obtain ⟨inside, behind, rfl, -⟩ := of_closingQuote closed
    simp at quote

/-- A value is closed by a quote of its own, or it goes on to the next blank. -/
lemma valueLength_cases (cs : List Char) :
    (∃ inside behind, cs = '"' :: (inside ++ '"' :: behind) ∧ valueLength cs = inside.length + 2) ∨
      valueLength cs = bareLength cs := by
  fun_cases valueLength cs with
  | case1 rest =>
    cases closed : closingQuote 1 rest with
    | none => exact .inr rfl
    | some m =>
      obtain ⟨inside, behind, rfl, length⟩ := of_closingQuote closed
      exact .inl ⟨inside, behind, rfl, by rw [Option.getD_some, length]; omega⟩
  | case2 => exact .inr rfl

/-- A value without quotes goes on up to the first blank. -/
lemma bareLength_cons (c : Char) (cs : List Char) :
    bareLength (c :: cs) = if isBlank c then 0 else bareLength cs + 1 := by
  rw [bareLength, List.takeWhile_cons]
  cases isBlank c <;> rfl

/-- A space ends a value without quotes, whatever is behind it. -/
lemma bareLength_append_space (cs w : List Char) : bareLength (cs ++ ' ' :: w) = bareLength cs := by
  induction cs with
  | nil =>
    rw [List.nil_append, bareLength_cons, if_pos (by decide), bareLength, List.takeWhile_nil,
      List.length_nil]
  | cons c cs ih => rw [List.cons_append, bareLength_cons, bareLength_cons, ih]

/-- Behind a value without quotes there is a blank or nothing. -/
lemma bare_ends (cs : List Char) : ∀ c ∈ (cs.drop (bareLength cs)).head?, isBlank c = true := by
  induction cs with
  | nil => simp
  | cons c cs ih =>
    rw [bareLength_cons]
    split
    · next blank => simpa using blank
    · exact ih

/-- There is a value exactly where there is a character that is no blank. -/
lemma valueLength_ne_zero_iff : valueLength cs ≠ 0 ↔ ∃ c ∈ cs.head?, isBlank c = false := by
  rcases valueLength_cases cs with ⟨inside, behind, rfl, length⟩ | bare
  · have plain : isBlank '"' = false := by decide
    simp [length, plain]
  · rw [bare]
    cases cs with
    | nil => simp [bareLength]
    | cons c cs => cases blank : isBlank c <;> simp [bareLength_cons, blank]

/-- A value is no longer than the text that it is read from. -/
lemma valueLength_le (cs : List Char) : valueLength cs ≤ cs.length := by
  rcases valueLength_cases cs with ⟨inside, behind, rfl, length⟩ | bare
  · rw [length]
    simp only [List.length_cons, List.length_append]
    omega
  · rw [bare]
    exact (List.takeWhile_prefix _).length_le

/-- A value ends outside a word, or a blank or nothing comes behind it. -/
lemma value_ends (cs : List Char) :
    endsInWord (cs.take (valueLength cs)) = false ∨
      ∀ c ∈ (cs.drop (valueLength cs)).head?, isBlank c = true := by
  rcases valueLength_cases cs with ⟨inside, behind, rfl, length⟩ | bare
  · left
    have closed : '"' :: (inside ++ '"' :: behind) = ('"' :: inside ++ ['"']) ++ behind := by simp
    have own : ('"' :: inside ++ ['"']).length = inside.length + 2 := by simp
    rw [length, closed, ← own, List.take_left, endsInWord_concat]
    decide
  · rw [bare]
    exact .inr (bare_ends cs)

/-- A text without quotes behind does not change which quote closes. -/
lemma closingQuote_append (quote : '"' ∉ w) : closingQuote n (cs ++ w) = closingQuote n cs := by
  fun_induction closingQuote n cs with
  | case1 n => rw [List.nil_append, closingQuote_eq_none quote]
  | case2 => rfl
  | case3 n =>
    have unquoted : '"' ∉ '\\' :: w := by simpa using quote
    exact closingQuote_eq_none unquoted n
  | case4 n rest => rw [List.cons_append, List.cons_append, closingQuote, if_pos rfl]
  | case5 n c rest line ih => rw [List.cons_append, List.cons_append, closingQuote, if_neg line, ih]
  | case6 n c rest quote' last slash ih =>
    have plain : c ≠ '\\' := by
      rintro rfl
      cases rest with
      | nil => exact last rfl rfl
      | cons d rest => exact slash d rest rfl rfl
    rw [List.cons_append, closingQuote_plain plain quote', ih]

/-- A space and a text without quotes are no part of a value in front of them. -/
lemma valueLength_append (quote : '"' ∉ w) : valueLength (cs ++ ' ' :: w) = valueLength cs := by
  have unquoted : '"' ∉ ' ' :: w := by simpa using quote
  fun_cases valueLength cs
  case case1 rest =>
    rw [List.cons_append, valueLength, closingQuote_append unquoted, ← List.cons_append,
      bareLength_append_space]
  case case2 other =>
    rw [valueLength, bareLength_append_space]
    intro rest first
    cases cs with
    | nil => simp at first
    | cons c cs =>
      rw [List.cons_append] at first
      exact other cs (by rw [(List.cons.inj first).1])

/-! ## Inversion -/

/-- No qualifier begins where there is no colon before the next space. -/
lemma at?_eq_none (colon : ':' ∉ cs.takeWhile (· ≠ ' ')) : Qualifier.at? cs = none := by
  rw [at?_eq, List.findSome?_eq_none_iff]
  intro entry listed
  cases found : matchSpelling entry.1 cs with
  | none => rw [spelledAt?, found]
  | some read =>
    obtain ⟨name, behind⟩ := read
    obtain ⟨rfl, spelled⟩ := of_matchSpelling found
    have unbroken : ∀ c ∈ name, decide (c ≠ ' ') = true := fun c mem =>
      decide_eq_true (ne_space_of_alnum ((name_alnum listed spelled).2 c mem))
    rw [List.takeWhile_append_of_pos unbroken] at colon
    simp at colon

/-- What is read at the front of a text: a name of a column, a colon, and a value that is not
empty. -/
lemma of_at? (found : Qualifier.at? cs = some q) :
    ∃ entry ∈ spellings, spells entry.1 q.name = true ∧ ∃ behind, cs = q.name ++ ':' :: behind ∧
      valueLength behind ≠ 0 ∧ q.value = behind.take (valueLength behind) := by
  rw [at?_eq] at found
  obtain ⟨entry, listed, found⟩ := List.exists_of_findSome?_eq_some found
  rw [spelledAt?] at found
  split at found
  · next name behind spelled =>
    dsimp only at found
    split at found
    · cases found
    · next some =>
      cases found
      obtain ⟨rfl, letters⟩ := of_matchSpelling spelled
      exact ⟨entry, listed, letters, behind, rfl, some, rfl⟩
  · cases found

/-- A qualifier is never empty. -/
lemma Qualifier.source_ne_nil (q : Qualifier) : q.source ≠ [] := by
  simp [Qualifier.source]

/-- What is read is the front of the text, and its value is not empty. -/
lemma source_prefix_of_at? (found : Qualifier.at? cs = some q) :
    q.source <+: cs ∧ q.value ≠ [] := by
  obtain ⟨_, -, -, behind, rfl, some, value⟩ := of_at? found
  rw [Qualifier.source, value]
  refine ⟨?_, fun empty => ?_⟩
  · exact (List.prefix_append_right_inj _).2 (List.cons_prefix_cons.2 ⟨rfl, List.take_prefix _ _⟩)
  · rcases List.take_eq_nil_iff.1 empty with zero | none
    · exact some zero
    · exact some (by rw [none]; rfl)

/-- A qualifier ends as its value does. -/
lemma endsInWord_source (value : q.value ≠ []) (front : List Char) :
    endsInWord (front ++ q.source) = endsInWord q.value := by
  have parts : front ++ q.source = (front ++ q.name ++ [':']) ++ q.value := by
    simp [Qualifier.source]
  rw [parts, endsInWord_append value]

/-- A qualifier is read exactly where there are a name, a colon and no blank behind it. -/
lemma isSome_at?_iff : (Qualifier.at? cs).isSome ↔
    ∃ entry ∈ spellings, ∃ name behind, spells entry.1 name = true ∧ cs = name ++ ':' :: behind ∧
      ∃ c ∈ behind.head?, isBlank c = false := by
  constructor
  · intro found
    obtain ⟨q, found⟩ := Option.isSome_iff_exists.1 found
    obtain ⟨entry, listed, spelled, behind, whole, some, -⟩ := of_at? found
    exact ⟨entry, listed, q.name, behind, spelled, whole, valueLength_ne_zero_iff.1 some⟩
  · rintro ⟨entry, listed, name, behind, spelled, rfl, some⟩
    rw [at?_eq, List.findSome?_isSome_iff]
    refine ⟨entry, listed, ?_⟩
    rw [spelledAt?, matchSpelling_of_spells spelled]
    simp [valueLength_ne_zero_iff.2 some]

/-- A qualifier does not begin with a blank. -/
lemma head_of_at? (found : Qualifier.at? cs = some q) : ∃ c ∈ cs.head?, isBlank c = false := by
  obtain ⟨entry, listed, spelled, behind, rfl, -⟩ := of_at? found
  obtain ⟨some, alnum⟩ := name_alnum listed spelled
  cases letters : q.name with
  | nil => exact absurd letters some
  | cons c rest => exact ⟨c, rfl, alnum_apart_blank.not_covers (alnum c (by simp [letters]))⟩

/-- A value ends outside a word, or there is a blank or nothing behind it. -/
lemma ends_of_at? (found : Qualifier.at? (q.source ++ back) = some q) :
    endsInWord q.value = false ∨ ∀ c ∈ back.head?, isBlank c = true := by
  obtain ⟨entry, -, -, behind, whole, -, value⟩ := of_at? found
  have rest : q.value ++ back = behind := by simpa [Qualifier.source] using whole
  have parts : q.value ++ back = q.value ++ behind.drop (valueLength behind) := by
    rw [rest, value, List.take_append_drop]
  rw [value, List.append_cancel_left parts]
  exact value_ends behind

/-- A space and a text without quotes that are put behind change nothing. -/
lemma at?_append (quote : '"' ∉ w) : Qualifier.at? (cs ++ ' ' :: w) = Qualifier.at? cs := by
  rw [at?_eq, at?_eq, ← List.head?_filterMap, ← List.head?_filterMap]
  refine congrArg List.head? (List.filterMap_congr fun entry listed => ?_)
  rw [spelledAt?, spelledAt?, matchSpelling_append (spelling_facts entry listed).2.1]
  cases matchSpelling entry.1 cs with
  | none => rfl
  | some read =>
    obtain ⟨name, behind⟩ := read
    rw [Option.map_some]
    dsimp only
    rw [valueLength_append quote, List.take_append_of_le_length (valueLength_le behind)]

end BookCatalog.Query
