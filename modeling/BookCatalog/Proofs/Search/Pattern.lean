import BookCatalog.Library.Search
import BookCatalog.Proofs.Text.Lower

/-!
# Texts that a pattern matches

A text with its wildcards escaped matches itself alone, up to what its characters count as, and so a
pattern of it between two wildcards matches the texts in which it occurs (`accepts_containing`). For
a text without letters, case makes no difference (`infix_map_letter`).
-/

namespace BookCatalog

namespace Pattern

variable {p cs u : List Char} {c d : Char}

/-! ## Matching, character by character -/

/-- A percent sign matches any text in front of what the rest of the pattern matches. -/
lemma accepts_percent : accepts ('%' :: p) cs = true ↔
    ∃ rest, rest <:+ cs ∧ accepts p rest = true := by
  induction cs with
  | nil =>
    rw [accepts]
    constructor
    · exact fun fits => ⟨[], List.suffix_rfl, fits⟩
    · rintro ⟨rest, suffix, fits⟩
      rwa [List.suffix_nil.1 suffix] at fits
  | cons d cs ih =>
    rw [accepts, Bool.or_eq_true, ih]
    constructor
    · rintro (fits | ⟨rest, suffix, fits⟩)
      · exact ⟨d :: cs, List.suffix_rfl, fits⟩
      · exact ⟨rest, suffix.trans (List.suffix_cons d cs), fits⟩
    · rintro ⟨rest, suffix, fits⟩
      rcases List.suffix_cons_iff.1 suffix with rfl | later
      · exact .inl fits
      · exact .inr ⟨rest, later, fits⟩

/-- An escaped character matches itself. -/
lemma accepts_escaped : accepts ('\\' :: c :: p) cs = true ↔
    ∃ d rest, cs = d :: rest ∧ sameLetter c d = true ∧ accepts p rest = true := by
  cases cs with
  | nil => simp [accepts]
  | cons d rest => simp [accepts]

/-- A plain character matches itself. -/
lemma accepts_plain (slash : c ≠ '\\') (percent : c ≠ '%') (line : c ≠ '_') :
    accepts (c :: p) cs = true ↔
      ∃ d rest, cs = d :: rest ∧ sameLetter c d = true ∧ accepts p rest = true := by
  cases cs with
  | nil => simp [accepts, slash]
  | cons d rest => simp [accepts, slash]

/-! ## Escaped texts -/

/-- What a character is escaped to matches that character. -/
lemma accepts_escapePattern_cons : accepts (escapePattern (c :: u) ++ p) cs = true ↔
    ∃ d rest, cs = d :: rest ∧ sameLetter c d = true ∧
    accepts (escapePattern u ++ p) rest = true := by
  by_cases special : c = '\\' ∨ c = '%' ∨ c = '_'
  · have escaped : escapePattern (c :: u) ++ p = '\\' :: c :: (escapePattern u ++ p) := by
      simp [escapePattern, special]
    rw [escaped, accepts_escaped]
  · have plain : escapePattern (c :: u) ++ p = c :: (escapePattern u ++ p) := by
      simp [escapePattern, special]
    obtain ⟨slash, percent, line⟩ : c ≠ '\\' ∧ c ≠ '%' ∧ c ≠ '_' := by
      simpa only [not_or] using special
    rw [plain, accepts_plain slash percent line]

/-- Characters count as the same if they count as the same letter. -/
lemma sameLetter_iff : sameLetter c d = true ↔ letter c = letter d := by
  rw [sameLetter, beq_iff_eq]

/-- An escaped text matches itself, character by character. -/
lemma accepts_escapePattern : accepts (escapePattern u ++ p) cs = true ↔
    ∃ front rest, cs = front ++ rest ∧ u.map letter = front.map letter ∧ accepts p rest = true := by
  induction u generalizing cs with
  | nil =>
    rw [escapePattern, List.flatMap_nil, List.nil_append]
    constructor
    · exact fun fits => ⟨[], cs, rfl, rfl, fits⟩
    · rintro ⟨front, rest, rfl, none, fits⟩
      cases List.map_eq_nil_iff.1 none.symm
      exact fits
  | cons c u ih =>
    simp only [accepts_escapePattern_cons, ih, sameLetter_iff]
    constructor
    · rintro ⟨d, -, rfl, same, front, rest, rfl, others, fits⟩
      exact ⟨d :: front, rest, rfl, by rw [List.map_cons, List.map_cons, same, others], fits⟩
    · rintro ⟨front, rest, rfl, same, fits⟩
      cases front with
      | nil => cases same
      | cons d front =>
        obtain ⟨own, others⟩ := List.cons.inj same
        exact ⟨d, front ++ rest, rfl, own, front, rest, rfl, others, fits⟩

/-- The pattern of an escaped text between two wildcards matches the texts in which it occurs, up to
what characters count as. -/
theorem accepts_containing : accepts ('%' :: escapePattern u ++ ['%']) cs = true ↔
    u.map letter <:+: cs.map letter := by
  rw [List.cons_append, accepts_percent]
  constructor
  · rintro ⟨_, ⟨before, rfl⟩, matched⟩
    obtain ⟨front, rest, rfl, same, -⟩ := accepts_escapePattern.1 matched
    exact ⟨before.map letter, rest.map letter, by simp [same]⟩
  · rintro ⟨before, behind, occurs⟩
    obtain ⟨start, rest, rfl, begins, -⟩ := List.map_eq_append_iff.1 occurs.symm
    obtain ⟨before', front, rfl, -, same⟩ := List.map_eq_append_iff.1 begins
    refine ⟨front ++ rest, ⟨before', by rw [List.append_assoc]⟩, ?_⟩
    refine accepts_escapePattern.2 ⟨front, rest, rfl, same.symm, ?_⟩
    exact accepts_percent.2 ⟨[], List.nil_suffix, by rw [accepts, List.isEmpty_nil]⟩

/-! ## Letters of ASCII -/

/-- The letters of ASCII are letters, and a small one is its own lowercase form. -/
lemma ascii_letters : ∀ n < 26, Text.isAlnum (Char.ofNat (0x41 + n)) = true ∧
    Text.isAlnum (Char.ofNat (0x61 + n)) = true ∧
      asciiLower (Char.ofNat (0x61 + n)) = Char.ofNat (0x61 + n) := by
  decide +kernel

/-- Only the capitals of ASCII have another form in lower case. -/
lemma asciiLower_cases (c : Char) : asciiLower c = c ∨
    ∃ n < 26, c = Char.ofNat (0x41 + n) ∧ asciiLower c = Char.ofNat (0x61 + n) := by
  rw [asciiLower]
  split
  · next capital =>
    obtain ⟨first, last⟩ : 0x41 ≤ c.toNat ∧ c.toNat ≤ 0x5A := capital
    refine .inr ⟨c.toNat - 0x41, by omega, ?_, ?_⟩
    · rw [Nat.add_sub_cancel' first, Char.ofNat_toNat]
    · congr 1
      omega
  · exact .inl rfl

/-- Lower case stays as it is. -/
lemma asciiLower_idem (c : Char) : asciiLower (asciiLower c) = asciiLower c := by
  rcases asciiLower_cases c with same | ⟨n, letter, -, small⟩
  · rw [same, same]
  · rw [small, (ascii_letters n letter).2.2]

/-- Characters that are no letters only come from themselves. -/
lemma asciiLower_eq_iff (unlettered : Text.isAlnum c = false) : asciiLower d = c ↔ d = c := by
  constructor
  · rintro rfl
    rcases asciiLower_cases d with same | ⟨n, letter, -, small⟩
    · exact same.symm
    · rw [small, (ascii_letters n letter).2.1] at unlettered
      cases unlettered
  · rintro rfl
    rcases asciiLower_cases d with same | ⟨n, letter, capital, -⟩
    · exact same
    · rw [capital, (ascii_letters n letter).1] at unlettered
      cases unlettered

/-- A text without letters is the lowercase form of itself alone. -/
lemma map_asciiLower_eq_iff (unlettered : ∀ c ∈ u, Text.isAlnum c = false) :
    cs.map asciiLower = u ↔ cs = u := by
  induction u generalizing cs with
  | nil => exact List.map_eq_nil_iff
  | cons c u ih =>
    obtain ⟨own, others⟩ := List.forall_mem_cons.1 unlettered
    cases cs with
    | nil => exact ⟨nofun, nofun⟩
    | cons d cs =>
      rw [List.map_cons, List.cons.injEq, List.cons.injEq, asciiLower_eq_iff own, ih others]

/-- Case makes no difference to where a text without letters occurs. -/
lemma infix_map_asciiLower (unlettered : ∀ c ∈ u, Text.isAlnum c = false) :
    u.map asciiLower <:+: cs.map asciiLower ↔ u <:+: cs := by
  constructor
  · rw [(map_asciiLower_eq_iff unlettered).2 rfl]
    rintro ⟨before, behind, occurs⟩
    obtain ⟨start, rest, rfl, begins, -⟩ := List.map_eq_append_iff.1 occurs.symm
    obtain ⟨before', front, rfl, -, same⟩ := List.map_eq_append_iff.1 begins
    rw [← (map_asciiLower_eq_iff unlettered).1 same]
    exact ⟨before', rest, rfl⟩
  · exact fun occurs => occurs.map asciiLower

/-! ## Characters as they are read -/

/-- U+FFFD, U+FFFE and U+FFFF are no letters or digits. -/
lemma apart_unread : Text.Apart [(0xFFFD, 0xFFFF)] Text.alnumSpans := by decide +kernel

/-- The same, character by character. -/
lemma unread_unlettered : ∀ c ∈ ['\uFFFD', '\uFFFE', '\uFFFF'], Text.isAlnum c = false := by
  intro c mem
  apply apart_unread.not_covers
  simp only [List.mem_cons, List.not_mem_nil, or_false] at mem
  rcases mem with rfl | rfl | rfl <;> decide

/-- A character is read as it is, but for two that are read as U+FFFD. -/
lemma readAs_cases (c : Char) :
    readAs c = c ∨ readAs c = '\uFFFD' ∧ (c = '\uFFFE' ∨ c = '\uFFFF') := by
  rw [readAs]
  split
  · next other => exact .inr ⟨rfl, other⟩
  · exact .inl rfl

/-- What is read as another character is no letter, and neither is the other character. -/
lemma isAlnum_readAs (unlettered : Text.isAlnum c = false) : Text.isAlnum (readAs c) = false := by
  rcases readAs_cases c with same | ⟨read, -⟩
  · rwa [same]
  · exact read ▸ unread_unlettered _ (by simp)

/-- What a character is read as is a circled letter only if it is one itself. -/
lemma isCircled_readAs (plain : Text.isCircled c = false) : Text.isCircled (readAs c) = false := by
  rcases readAs_cases c with same | ⟨read, -⟩
  · rwa [same]
  · rw [read]
    decide

/-- Letters are read as they are. -/
lemma readAs_eq_self (alnum : Text.isAlnum c = true) : readAs c = c := by
  refine (readAs_cases c).resolve_right fun ⟨_, other⟩ => ?_
  have unlettered := unread_unlettered c (by simp [other])
  rw [alnum] at unlettered
  cases unlettered

/-- A text counts as the same with its ASCII letters in lower case. -/
lemma letter_asciiLower (c : Char) : letter (asciiLower c) = letter c := by
  rcases asciiLower_cases c with same | ⟨n, small, capital, lower⟩
  · rw [same]
  · obtain ⟨alnum, alnum', -⟩ := ascii_letters n small
    rw [letter, letter, readAs_eq_self (lower ▸ alnum'), readAs_eq_self (capital ▸ alnum),
      asciiLower_idem]

/-- Case makes no difference to where a text without letters is read. -/
lemma infix_map_letter (unlettered : ∀ c ∈ u, Text.isAlnum c = false) :
    u.map letter <:+: cs.map letter ↔ u.map readAs <:+: cs.map readAs := by
  have read : ∀ c ∈ u.map readAs, Text.isAlnum c = false := by
    intro c mem
    obtain ⟨d, own, rfl⟩ := List.mem_map.1 mem
    exact isAlnum_readAs (unlettered d own)
  rw [← infix_map_asciiLower read, List.map_map, List.map_map]
  rfl

/-! ## Texts of a book -/

/-- Without U+0000 a text is read to its end. -/
lemma terminated_of_free (free : '\x00' ∉ cs) : terminated cs = cs := by
  rw [terminated, List.takeWhile_eq_self_iff]
  intro c mem
  rw [decide_eq_true_eq]
  rintro rfl
  exact free mem

/-- U+0000 is no letter or digit. -/
lemma not_alnum_zero : Text.isAlnum '\x00' = false := by decide

/-- Lower case does not move the first U+0000. -/
lemma terminated_map_asciiLower (cs : List Char) :
    terminated (cs.map asciiLower) = (terminated cs).map asciiLower := by
  rw [terminated, List.takeWhile_map, terminated]
  congr
  funext c
  rw [Function.comp_apply, decide_eq_decide, ne_eq, asciiLower_eq_iff not_alnum_zero]

/-- Escaping adds backslashes and nothing else. -/
lemma mem_escapePattern (mem : c ∈ escapePattern u) : c ∈ u ∨ c = '\\' := by
  obtain ⟨d, own, escaped⟩ := List.mem_flatMap.1 mem
  split at escaped
  · rcases List.mem_cons.1 escaped with slash | same
    · exact .inr slash
    · exact .inl (List.mem_singleton.1 same ▸ own)
  · exact .inl (List.mem_singleton.1 escaped ▸ own)

/-- A search for a text looks up to the first U+0000 of another text, case of ASCII letters
ignored. -/
theorem fitsText_containing (free : '\x00' ∉ Text.lower u) (s : String) :
    fitsText (containsPattern u) (some s) = true ↔
      (Text.lower u).map letter <:+: (terminated s.toList).map letter := by
  have whole : terminated (containsPattern u) = '%' :: escapePattern (Text.lower u) ++ ['%'] := by
    refine terminated_of_free fun mem => ?_
    rw [containsPattern, List.mem_append, List.mem_cons] at mem
    rcases mem with (percent | escaped) | percent
    · cases percent
    · rcases mem_escapePattern escaped with own | slash
      · exact free own
      · cases slash
    · cases List.mem_singleton.1 percent
  have twice : ((terminated s.toList).map asciiLower).map letter =
      (terminated s.toList).map letter := by
    rw [List.map_map]
    exact List.map_congr_left fun c _ => letter_asciiLower c
  rw [fitsText, Option.any_some, fits, whole, accepts_containing, terminated_map_asciiLower, twice]

end Pattern

end BookCatalog
