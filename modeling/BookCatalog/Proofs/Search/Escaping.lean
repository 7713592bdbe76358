import BookCatalog.Proofs.Search.Pattern

/-!
# Escaped texts in patterns

A text is escaped by putting a backslash in front of its backslashes, then of its percent signs and
then of its underscores. One pass over the text gives the same (`escapePattern_eq_slashed`): no pass
escapes what an earlier one has put there. What is escaped matches itself alone, in front of any
pattern and between two wildcards, up to what its characters count as (`fits_escaped`).
-/

namespace BookCatalog.Pattern

variable {t s p cs ds : List Char} {c d special : Char}

/-! ## Three passes -/

/-- A text with a backslash in front of each occurrence of a character. -/
def slashed (special : Char) (cs : List Char) : List Char :=
  cs.flatMap fun c => if c = special then ['\\', c] else [c]

/-- Backslashes are put into a text part by part. -/
lemma slashed_append : slashed special (cs ++ ds) = slashed special cs ++ slashed special ds :=
  List.flatMap_append

/-- One character gets a backslash if it is the special one. -/
lemma slashed_singleton : slashed special [c] = if c = special then ['\\', c] else [c] := by
  rw [slashed, List.flatMap_singleton]

/-- Three passes put one backslash in front of a wildcard or a backslash, and none in front of
another character. -/
lemma slashed_thrice (c : Char) :
    slashed '_' (slashed '%' (slashed '\\' [c])) =
      if c = '\\' ∨ c = '%' ∨ c = '_' then ['\\', c] else [c] := by
  split
  · next special => rcases special with rfl | rfl | rfl <;> decide
  · next plain =>
    obtain ⟨slash, percent, line⟩ : c ≠ '\\' ∧ c ≠ '%' ∧ c ≠ '_' := by
      simpa only [not_or] using plain
    simp only [slashed_singleton, slash, percent, line, if_false]

/-- One pass for all three characters is three passes, backslashes first. -/
lemma escapePattern_eq_slashed (t : List Char) :
    escapePattern t = slashed '_' (slashed '%' (slashed '\\' t)) := by
  induction t with
  | nil => rfl
  | cons c t ih =>
    rw [← List.singleton_append, slashed_append, slashed_append, slashed_append,
      slashed_thrice, ← ih]
    rfl

/-! ## What characters count as -/

/-- Characters that are read as they are, and as which no other character is read. -/
def ReadAlone (c : Char) : Prop :=
  c ∉ ['\uFFFD', '\uFFFE', '\uFFFF']

instance (c : Char) : Decidable (ReadAlone c) :=
  inferInstanceAs (Decidable (¬ _))

/-- Such a character is read as it is. -/
lemma ReadAlone.readAs_eq (alone : ReadAlone c) : readAs c = c :=
  (readAs_cases c).resolve_right fun ⟨_, other⟩ => alone (by simp [other])

/-- A character that is read alone counts as those that are the same ASCII letter. -/
lemma ReadAlone.letter_eq_iff (alone : ReadAlone c) : letter d = letter c ↔
    asciiLower d = asciiLower c := by
  have unread : ∀ e ∈ ['\uFFFD', '\uFFFE', '\uFFFF'], asciiLower e ≠ asciiLower c := by
    intro e mem same
    have unlettered := unread_unlettered e mem
    rw [(asciiLower_eq_iff unlettered).2 rfl, eq_comm, asciiLower_eq_iff unlettered] at same
    exact alone (same ▸ mem)
  rw [letter, letter, alone.readAs_eq]
  rcases readAs_cases d with same | ⟨read, other⟩
  · rw [same]
  · rw [read]
    exact iff_of_false (unread _ (by simp)) (unread d (by simp [other]))

/-- Texts of such characters count as the same if only the case of ASCII letters differs. -/
lemma map_letter_eq_iff (alone : ∀ c ∈ t, ReadAlone c) :
    cs.map letter = t.map letter ↔ cs.map asciiLower = t.map asciiLower := by
  induction t generalizing cs with
  | nil => simp
  | cons c t ih =>
    obtain ⟨own, others⟩ := List.forall_mem_cons.1 alone
    cases cs with
    | nil => exact ⟨nofun, nofun⟩
    | cons d cs => simp only [List.map_cons, List.cons.injEq, own.letter_eq_iff, ih others]

/-- A text occurs in another one, up to what characters count as, if a part of the other one counts
as the text. -/
lemma infix_map_iff {f : Char → Char} :
    t.map f <:+: s.map f ↔ ∃ part, part <:+: s ∧ part.map f = t.map f := by
  constructor
  · rintro ⟨before, behind, occurs⟩
    obtain ⟨start, rest, rfl, begins, -⟩ := List.map_eq_append_iff.1 occurs.symm
    obtain ⟨before', part, rfl, -, same⟩ := List.map_eq_append_iff.1 begins
    exact ⟨part, ⟨before', rest, rfl⟩, same⟩
  · rintro ⟨part, inside, same⟩
    exact same ▸ inside.map f

/-! ## Matches -/

/-- Escaping adds no U+0000. -/
lemma zero_notMem_escapePattern (free : '\x00' ∉ t) : '\x00' ∉ escapePattern t := fun mem =>
  (mem_escapePattern mem).elim free (by decide)

/-- Without U+0000 all of a pattern is matched with all of a text. -/
lemma fits_of_free (pattern : '\x00' ∉ p) (text : '\x00' ∉ s) : fits p s = accepts p s := by
  rw [fits, terminated_of_free pattern, terminated_of_free text]

/-- An escaped text between two wildcards matches the texts in which it occurs. -/
lemma fits_between (free : '\x00' ∉ t) (bounded : '\x00' ∉ s) :
    fits ('%' :: escapePattern t ++ ['%']) s = true ↔ t.map letter <:+: s.map letter := by
  have pattern : '\x00' ∉ '%' :: escapePattern t ++ ['%'] := by
    simp [zero_notMem_escapePattern free]
  rw [fits_of_free pattern bounded, accepts_containing]

/-- An escaped text in front of a pattern matches the start of a text. -/
lemma fits_front (free : '\x00' ∉ t) (bounded : '\x00' ∉ s) (clear : '\x00' ∉ p) :
    fits (escapePattern t ++ p) s = true ↔
      ∃ front rest, s = front ++ rest ∧ front.map letter = t.map letter ∧ fits p rest = true := by
  have pattern : '\x00' ∉ escapePattern t ++ p := by
    simp [zero_notMem_escapePattern free, clear]
  rw [fits_of_free pattern bounded, accepts_escapePattern]
  refine exists_congr fun front => exists_congr fun rest => and_congr_right fun whole => ?_
  have behind : '\x00' ∉ rest := fun mem => bounded (whole ▸ List.mem_append_right front mem)
  rw [fits_of_free clear behind, eq_comm (a := t.map letter)]

/-- **Escaping is exact.** A text is escaped by three passes. Between two wildcards it matches the
texts in which it occurs, up to what characters count as, and that is the case of ASCII letters
alone unless the text holds U+FFFD or a character that is read as U+FFFD. In front of any pattern it
matches itself, and the pattern what is behind. -/
theorem fits_escaped (free : '\x00' ∉ t) (bounded : '\x00' ∉ s) :
    escapePattern t = slashed '_' (slashed '%' (slashed '\\' t)) ∧
      (fits ('%' :: escapePattern t ++ ['%']) s = true ↔ t.map letter <:+: s.map letter) ∧
      ((∀ c ∈ t, ReadAlone c) →
        (fits ('%' :: escapePattern t ++ ['%']) s = true ↔
          t.map asciiLower <:+: s.map asciiLower)) ∧
      ∀ p, '\x00' ∉ p → (fits (escapePattern t ++ p) s = true ↔
        ∃ front rest, s = front ++ rest ∧ front.map letter = t.map letter ∧
          fits p rest = true) := by
  refine ⟨escapePattern_eq_slashed t, fits_between free bounded, fun alone => ?_,
    fun p => fits_front free bounded⟩
  rw [fits_between free bounded, infix_map_iff, infix_map_iff]
  simp only [map_letter_eq_iff alone]

/-- All wildcards behind one another, in a text that holds them among other characters. -/
theorem wildcards_fit : '\x00' ∉ "%_\\%".toList ∧ '\x00' ∉ "a%_\\%b".toList ∧
    fits ('%' :: escapePattern "%_\\%".toList ++ ['%']) "a%_\\%b".toList = true ∧
      fits ('%' :: escapePattern "%_\\%".toList ++ ['%']) "axyz%b".toList = false := by
  obtain ⟨-, -, found, -⟩ :=
    fits_escaped (t := "%_\\%".toList) (s := "a%_\\%b".toList) (by decide) (by decide)
  obtain ⟨-, -, missed, -⟩ :=
    fits_escaped (t := "%_\\%".toList) (s := "axyz%b".toList) (by decide) (by decide)
  have alone : ∀ c ∈ "%_\\%".toList, ReadAlone c := by simp [ReadAlone]
  refine ⟨by decide, by decide, (found alone).2 ⟨['a'], ['b'], by decide⟩, ?_⟩
  rw [← Bool.not_eq_true, missed alone]
  decide +kernel

/-- U+FFFE is found in a text that holds U+FFFD alone. -/
theorem unread_found : '\x00' ∉ ['\uFFFE'] ∧ '\x00' ∉ ['\uFFFD'] ∧
    isTooComplex ('%' :: escapePattern ['\uFFFE'] ++ ['%']) = false ∧
      fits ('%' :: escapePattern ['\uFFFE'] ++ ['%']) ['\uFFFD'] = true ∧
        ¬['\uFFFE'].map asciiLower <:+: ['\uFFFD'].map asciiLower := by
  refine ⟨by decide, by decide, by decide, (fits_between (by decide) (by decide)).2 ?_, by decide⟩
  decide

end BookCatalog.Pattern
