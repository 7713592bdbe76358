import BookCatalog.Proofs.Index.Words

/-!
# Quoted values in a query

Any text can be asked for in one column: with its quotes and backslashes escaped it is the value of
a qualifier. Such a value is read to its own closing quote, whatever comes behind
(`valueLength_quote`), and stands for the text (`unquote_quote`). The name in front of it may be
written in any case (`at?_quoted`).
-/

namespace BookCatalog.Query

open Text

/-- A text with its backslashes and quotes escaped. -/
def escape (cs : List Char) : List Char :=
  cs.flatMap fun c => if c = '\\' ∨ c = '"' then ['\\', c] else [c]

def quote (cs : List Char) : List Char :=
  '"' :: (escape cs ++ ['"'])

variable {cs name rest : List Char} {c : Char} {column : Column}

/-! ## Quotes -/

/-- What a character is escaped to, and how reading goes on behind it. -/
lemma escape_cons (c : Char) (cs : List Char) :
    (c = '\\' ∨ c = '"') ∧ escape (c :: cs) = '\\' :: c :: escape cs ∨
      c ≠ '\\' ∧ c ≠ '"' ∧ escape (c :: cs) = c :: escape cs := by
  by_cases special : c = '\\' ∨ c = '"'
  · exact .inl ⟨special, by simp [escape, special]⟩
  · obtain ⟨slash, quote⟩ := not_or.1 special
    exact .inr ⟨slash, quote, by simp [escape, special]⟩

/-- A character that is neither a backslash nor a quote is skipped. -/
lemma closingQuote_plain (slash : c ≠ '\\') (quote : c ≠ '"') (n : Nat) (rest : List Char) :
    closingQuote n (c :: rest) = closingQuote (n + 1) rest := by
  rw [closingQuote]
  · exact quote
  · exact fun e _ => slash e
  · exact fun _ _ e _ => slash e

/-- An escaped text is closed by the quote behind it. -/
lemma closingQuote_escape (n : Nat) (cs rest : List Char) :
    closingQuote n (escape cs ++ '"' :: rest) = some (n + (escape cs).length + 1) := by
  induction cs generalizing n with
  | nil => rfl
  | cons c cs ih =>
    rcases escape_cons c cs with ⟨special, escaped⟩ | ⟨slash, quote, plain⟩
    · -- a backslash only escapes what is on its line
      have line : c ≠ '\n' := by rcases special with rfl | rfl <;> decide
      rw [escaped, List.cons_append, List.cons_append, closingQuote, if_neg line, ih]
      simp only [List.length_cons, Option.some.injEq]
      omega
    · rw [plain, List.cons_append, closingQuote_plain slash quote, ih]
      simp only [List.length_cons, Option.some.injEq]
      omega

/-- A character that is no backslash stands for itself. -/
lemma unescapeFrom_plain (slash : c ≠ '\\') (out rest : List Char) :
    unescapeFrom out (c :: rest) = unescapeFrom (c :: out) rest := by
  rw [unescapeFrom]
  · exact fun e _ => slash e
  · exact fun _ _ e _ => slash e

/-- An escaped text stands for the text. -/
lemma unescapeFrom_escape (out cs : List Char) :
    unescapeFrom out (escape cs) = out.reverse ++ cs := by
  induction cs generalizing out with
  | nil => simp [escape, unescapeFrom]
  | cons c cs ih =>
    rcases escape_cons c cs with ⟨special, escaped⟩ | ⟨slash, quote, plain⟩
    · rw [escaped, unescapeFrom, ih]
      simp
    · rw [plain, unescapeFrom_plain slash, ih]
      simp

/-- There are no blanks around a quoted text. -/
lemma strip_quote (cs : List Char) : strip (quote cs) = quote cs := by
  have blank : isBlank '"' = false := by decide
  have front : (quote cs).dropWhile isBlank = quote cs := by simp [quote, blank]
  have back : (quote cs).reverse.dropWhile isBlank = (quote cs).reverse := by simp [quote, blank]
  rw [strip, stripEnd, front, back, List.reverse_reverse]

/-- A quoted text stands for the text. -/
lemma unquote_quote (cs : List Char) : unquote (quote cs) = cs := by
  have inside : insideQuotes? (quote cs) = some cs := by
    rw [quote, insideQuotes?]
    simp [unescapeFrom_escape]
  rw [unquote, strip_quote, inside]
  rfl

/-- The value of a qualifier with a quoted text is the quoted text, whatever comes behind. -/
lemma valueLength_quote (cs rest : List Char) :
    valueLength (quote cs ++ rest) = (quote cs).length := by
  have behind : quote cs ++ rest = '"' :: (escape cs ++ '"' :: rest) := by simp [quote]
  rw [behind, valueLength, closingQuote_escape, Option.getD_some]
  simp only [quote, List.length_cons, List.length_append, List.length_nil]
  omega

/-! ## Names -/

def spells : List Char → List Char → Bool
  | [], [] => true
  | letter :: letters, c :: cs => isLetter letter c && spells letters cs
  | _, _ => false

/-- In front of the first colon of a text a spelling is found if the name there is spelled like it.
-/
lemma matchSpelling_eq {letters : List Char}
    (other : letters.all (fun letter => !isLetter letter ':') = true) (colon : ':' ∉ name) :
    matchSpelling letters (name ++ ':' :: rest) =
      if spells letters name then some (name, rest) else none := by
  induction letters generalizing name with
  | nil =>
    cases name with
    | nil => rfl
    | cons c cs =>
      have ne : c ≠ ':' := fun e => colon (e ▸ List.mem_cons_self)
      rw [List.cons_append, matchSpelling]
      · rfl
      · exact fun _ e => ne (List.cons.inj e).1
  | cons letter letters ih =>
    rw [List.all_cons, Bool.and_eq_true, Bool.not_eq_true'] at other
    cases name with
    | nil => simp [matchSpelling, other.1, spells]
    | cons c cs =>
      rw [List.cons_append, matchSpelling, spells,
        ih other.2 fun mem => colon (List.mem_cons_of_mem _ mem)]
      cases isLetter letter c with
      | false => rfl
      | true => cases spells letters cs <;> rfl

/-- A name is spelled like its lowercase form. -/
lemma spells_map : ∀ name : List Char, spells (name.map (shift lowerRuns)) name = true
  | [] => rfl
  | c :: cs => by
    rw [List.map_cons, spells, spells_map cs, Bool.and_true, isLetter, beq_self_eq_true,
      Bool.true_or]

/-- What lowercasing leads to outside its table, and only there. -/
def isSpecial (c : Char) : Bool :=
  c == 'σ' || c == 'ς' || c == '\u0307'

/-- Where lowercasing leads to nothing special it is done character by character. -/
lemma lowerIn_eq {before after : List Char}
    (plain : (lowerIn before after c).any isSpecial = false) :
    lowerIn before after c = [shift lowerRuns c] := by
  rw [lowerIn] at plain ⊢
  split at plain
  case isTrue sigma =>
    exfalso
    revert plain
    cases closesWord before after <;> decide
  case isFalse other =>
    rw [if_neg other]
    rw [lowerChar] at plain ⊢
    split at plain
    case isTrue dotted =>
      exfalso
      revert plain
      decide
    case isFalse undotted => rw [if_neg undotted]

/-- Where lowercasing leads to nothing special, it goes letter by letter. -/
lemma lower_eq_map (plain : (lower name).any isSpecial = false) :
    lower name = name.map (shift lowerRuns) := by
  suffices all : ∀ out before, (lowerFrom out before name).any isSpecial = false →
      lowerFrom out before name = out.reverse ++ name.map (shift lowerRuns) from all [] [] plain
  clear plain
  induction name with
  | nil =>
    intro out before _
    simp [lowerFrom]
  | cons c rest ih =>
    intro out before plain
    rw [lowerFrom] at plain ⊢
    have later := ih _ _ plain
    rw [later] at plain ⊢
    simp only [List.reverse_append, List.reverse_reverse, List.any_append, Bool.or_eq_false_iff]
      at plain
    rw [lowerIn_eq plain.1.2]
    simp

/-- What holds of every spelling: no letter counts as a colon or a space, and none is special. -/
lemma spelling_facts : ∀ entry ∈ spellings,
    entry.1.all (fun letter => !isLetter letter ':') = true ∧
      entry.1.all (fun letter => !isLetter letter ' ') = true ∧ ':' ∉ entry.1 ∧
      entry.1.any isSpecial = false := by
  decide +kernel

/-- No spelling stands for two columns. -/
lemma lookup_spellings : ∀ entry ∈ spellings, spellings.lookup entry.1 = some entry.2 := by
  decide +kernel

/-- A name stands for a column exactly if it is one of the spellings of this column, in any case. -/
theorem ofName?_eq_some_iff : Column.ofName? name = some column ↔
    (lower name, column) ∈ spellings := by
  constructor
  · intro stands
    obtain ⟨before, after, all, -⟩ := List.lookup_eq_some_iff.1 stands
    simp [all]
  · exact lookup_spellings (lower name, column)

example : Column.ofName? "АВТОРЫ".toList = some .authors ∧ Column.ofName? "ser".toList = none := by
  decide +kernel

/-- A name that stands for a column, in any case, is found letter by letter, and it has no colon. -/
lemma exists_spelling (stands : Column.ofName? name = some column) :
    ':' ∉ name ∧ ∃ entry ∈ spellings, spells entry.1 name = true := by
  have listed : (lower name, column) ∈ spellings := ofName?_eq_some_iff.1 stands
  obtain ⟨-, -, colon, plain⟩ := spelling_facts _ listed
  simp only at colon plain
  rw [lower_eq_map plain] at colon listed
  refine ⟨fun mem => colon ?_, _, listed, spells_map name⟩
  exact List.mem_map.2 ⟨':', mem, rfl⟩

/-- The qualifier that a spelling finds at the front of a text. -/
def spelledAt? (cs : List Char) (entry : List Char × Column) : Option Qualifier :=
  match matchSpelling entry.1 cs with
  | some (name, behind) =>
    let n := valueLength behind
    if n = 0 then none else some ⟨name, behind.take n⟩
  | none => none

/-- A qualifier is read by the first spelling that finds one. -/
lemma at?_eq (cs : List Char) : Qualifier.at? cs = spellings.findSome? (spelledAt? cs) := rfl

/-- A name, a colon and a quoted text are a qualifier, whatever comes behind. -/
lemma at?_quoted (stands : Column.ofName? name = some column) (cs rest : List Char) :
    Qualifier.at? (name ++ ':' :: (quote cs ++ rest)) = some ⟨name, quote cs⟩ := by
  obtain ⟨colon, entry, listed, spelled⟩ := exists_spelling stands
  have ne : quote cs ≠ [] := List.cons_ne_nil _ _
  -- every spelling that fits gives the same qualifier
  have each : ∀ entry ∈ spellings, spelledAt? (name ++ ':' :: (quote cs ++ rest)) entry =
      if spells entry.1 name then some ⟨name, quote cs⟩ else none := by
    intro entry listed
    rw [spelledAt?, matchSpelling_eq (spelling_facts entry listed).1 colon]
    cases spells entry.1 name with
    | false => rfl
    | true => simp [valueLength_quote, ne]
  rw [at?_eq]
  cases found : spellings.findSome? (spelledAt? (name ++ ':' :: (quote cs ++ rest))) with
  | none =>
    rw [List.findSome?_eq_none_iff] at found
    have missed := found _ listed
    rw [each _ listed, if_pos spelled] at missed
    cases missed
  | some q =>
    obtain ⟨entry, listed, gives⟩ := List.exists_of_findSome?_eq_some found
    rw [each entry listed] at gives
    split at gives
    · exact gives.symm
    · cases gives

end BookCatalog.Query
