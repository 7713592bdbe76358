import BookCatalog.Text.Blank
import Mathlib

/-!
# Fields of a text

A separator cuts a text in two, whatever stands on both sides of it (`splitOn_append_sep`). So
fields without separators that are joined are cut apart again (`splitOn_joinWith`), and every text
is its fields joined (`joinWith_splitOn`). Blanks at the ends of a text do not matter to what
`strip` leaves (`strip_around`), and belong to the first and the last field (`splitOn_around`).
-/

namespace BookCatalog.Text

variable {sep c : Char} {cs field first last front back : List Char}
  {fields middle : List (List Char)}

/-! ## Separators -/

/-- A text is cut character by character. -/
lemma splitOn_cons (sep c : Char) (cs : List Char) :
    splitOn sep (c :: cs) = prependField sep c (splitOn sep cs) :=
  rfl

/-- There is at least one field. -/
lemma splitOn_ne_nil (sep : Char) (cs : List Char) : splitOn sep cs ≠ [] := by
  cases cs with
  | nil => exact List.cons_ne_nil _ _
  | cons c cs =>
    rw [splitOn_cons]
    cases splitOn sep cs with
    | nil => exact List.cons_ne_nil _ _
    | cons field fields =>
      rw [prependField]
      split
      · exact List.cons_ne_nil _ _
      · exact List.cons_ne_nil _ _

/-- A character joins the first field, whatever fields come behind. -/
lemma prependField_append (sep c : Char) (ne : fields ≠ []) (more : List (List Char)) :
    prependField sep c (fields ++ more) = prependField sep c fields ++ more := by
  cases fields with
  | nil => exact absurd rfl ne
  | cons field fields =>
    rw [List.cons_append, prependField, prependField]
    split
    · rfl
    · rfl

/-- The texts on both sides of a separator are cut apart. -/
lemma splitOn_append_sep (sep : Char) (before after : List Char) :
    splitOn sep (before ++ sep :: after) = splitOn sep before ++ splitOn sep after := by
  induction before with
  | nil =>
    rw [List.nil_append, splitOn_cons]
    cases cut : splitOn sep after with
    | nil => exact absurd cut (splitOn_ne_nil sep after)
    | cons field fields => simp [prependField, splitOn]
  | cons c before ih =>
    rw [List.cons_append, splitOn_cons, splitOn_cons, ih]
    exact prependField_append sep c (splitOn_ne_nil sep before) _

/-- A text without separators is one field. -/
lemma splitOn_of_free (free : sep ∉ field) : splitOn sep field = [field] := by
  induction field with
  | nil => rfl
  | cons c field ih =>
    rw [List.mem_cons, not_or] at free
    rw [splitOn_cons, ih free.2, prependField, if_neg (Ne.symm free.1)]

/-- A first field is joined to the others by one separator. -/
lemma joinWith_cons (sep first second : List Char) (rest : List (List Char)) :
    joinWith sep (first :: second :: rest) = first ++ sep ++ joinWith sep (second :: rest) := by
  simp [joinWith]

/-- Fields that are joined by a separator are cut apart again. -/
theorem splitOn_joinWith (ne : fields ≠ []) (free : ∀ field ∈ fields, sep ∉ field) :
    splitOn sep (joinWith [sep] fields) = fields := by
  induction fields with
  | nil => exact absurd rfl ne
  | cons first rest ih =>
    obtain ⟨own, others⟩ := List.forall_mem_cons.1 free
    cases rest with
    | nil => simpa [joinWith] using splitOn_of_free own
    | cons second rest =>
      rw [joinWith_cons, List.append_assoc, List.singleton_append, splitOn_append_sep,
        splitOn_of_free own, ih (List.cons_ne_nil _ _) others]
      rfl

/-- No field has a separator. -/
lemma not_mem_of_mem_splitOn (mem : field ∈ splitOn sep cs) : sep ∉ field := by
  induction cs generalizing field with
  | nil =>
    cases List.mem_singleton.1 mem
    exact List.not_mem_nil
  | cons c cs ih =>
    rw [splitOn_cons] at mem
    cases cut : splitOn sep cs with
    | nil => exact absurd cut (splitOn_ne_nil sep cs)
    | cons head rest =>
      rw [cut] at ih mem
      rw [prependField] at mem
      split at mem
      · rcases List.mem_cons.1 mem with rfl | later
        · exact List.not_mem_nil
        · exact ih later
      · next other =>
        rcases List.mem_cons.1 mem with rfl | later
        · exact List.not_mem_cons_of_ne_of_not_mem (Ne.symm other) (ih List.mem_cons_self)
        · exact ih (List.mem_cons_of_mem _ later)

/-- A text is its fields with separators between them. -/
lemma joinWith_splitOn (sep : Char) (cs : List Char) : joinWith [sep] (splitOn sep cs) = cs := by
  induction cs with
  | nil => rfl
  | cons c cs ih =>
    rw [splitOn_cons]
    cases cut : splitOn sep cs with
    | nil => exact absurd cut (splitOn_ne_nil sep cs)
    | cons head rest =>
      rw [cut, joinWith] at ih
      rw [prependField]
      split
      · next same => rw [joinWith_cons, joinWith, ih, same, List.nil_append, List.singleton_append]
      · rw [joinWith, List.cons_append, ih]

/-- There is one field more than separators. -/
lemma length_splitOn (sep : Char) (cs : List Char) :
    (splitOn sep cs).length = cs.count sep + 1 := by
  induction cs with
  | nil => rfl
  | cons c cs ih =>
    rw [splitOn_cons, List.count_cons]
    cases cut : splitOn sep cs with
    | nil => exact absurd cut (splitOn_ne_nil sep cs)
    | cons head rest =>
      rw [cut] at ih
      by_cases same : c = sep <;> simp [prependField, same] at ih ⊢ <;> omega

/-- What stands around a text without a separator belongs to its first and its last field. -/
lemma splitOn_around (cut : splitOn sep cs = first :: (middle ++ [last])) (before : sep ∉ front)
    (behind : sep ∉ back) :
    splitOn sep (front ++ cs ++ back) = (front ++ first) :: (middle ++ [last ++ back]) := by
  have text : front ++ cs ++ back =
      joinWith [sep] ((front ++ first) :: (middle ++ [last ++ back])) := by
    rw [← joinWith_splitOn sep cs, cut]
    simp [joinWith]
  have free : ∀ field ∈ first :: (middle ++ [last]), sep ∉ field := fun field mem =>
    not_mem_of_mem_splitOn (cut ▸ mem)
  rw [text]
  apply splitOn_joinWith (List.cons_ne_nil _ _)
  simp only [List.mem_cons, List.mem_append, List.not_mem_nil, or_false, not_or, or_imp, forall_and,
    forall_eq] at free ⊢
  exact ⟨⟨before, free.1⟩, free.2.1, free.2.2, behind⟩

/-- Texts without separators around a text do not change the number of fields. -/
lemma length_splitOn_around (cs : List Char) (before : sep ∉ front) (behind : sep ∉ back) :
    (splitOn sep (front ++ cs ++ back)).length = (splitOn sep cs).length := by
  rw [length_splitOn, length_splitOn, List.count_append, List.count_append,
    List.count_eq_zero.2 before, List.count_eq_zero.2 behind, Nat.zero_add, Nat.add_zero]

/-- The fields between the first and the last one do not see what stands around the text. -/
lemma getElem?_splitOn_around (before : sep ∉ front) (behind : sep ∉ back) {place : Nat}
    (inner : 0 < place) (within : place + 1 < (splitOn sep cs).length) :
    (splitOn sep (front ++ cs ++ back))[place]? = (splitOn sep cs)[place]? := by
  obtain ⟨first, rest, cut⟩ := List.exists_cons_of_ne_nil (splitOn_ne_nil sep cs)
  have some : rest ≠ [] := by
    rintro rfl
    rw [cut, List.length_singleton] at within
    omega
  rw [← List.dropLast_append_getLast some] at cut
  have short : place - 1 < rest.dropLast.length := by
    rw [cut, List.length_cons, List.length_append, List.length_singleton] at within
    omega
  rw [splitOn_around cut before behind, cut, List.getElem?_cons, List.getElem?_cons,
    if_neg inner.ne', if_neg inner.ne', List.getElem?_append_left short,
    List.getElem?_append_left short]

/-- Joined fields have their own characters and the separator. -/
lemma mem_joinWith (mem : c ∈ joinWith [sep] fields) : c = sep ∨ ∃ field ∈ fields, c ∈ field := by
  cases fields with
  | nil => cases mem
  | cons first rest =>
    rw [joinWith, List.mem_append, List.mem_flatMap] at mem
    rcases mem with own | ⟨field, listed, own⟩
    · exact .inr ⟨first, List.mem_cons_self, own⟩
    · rcases List.mem_append.1 own with between | own
      · exact .inl (List.mem_singleton.1 between)
      · exact .inr ⟨field, List.mem_cons_of_mem _ listed, own⟩

/-! ## Blanks -/

/-- A text that neither begins nor ends with a blank. -/
structure Trim (cs : List Char) : Prop where
  head : ∀ c ∈ cs.head?, isBlank c = false
  last : ∀ c ∈ cs.getLast?, isBlank c = false

/-- Blanks in front are left out. -/
lemma dropWhile_blanks_append (blank : ∀ c ∈ front, isBlank c = true) :
    (front ++ cs).dropWhile isBlank = cs.dropWhile isBlank := by
  rw [List.dropWhile_append, List.dropWhile_eq_nil_iff.2 blank]
  rfl

/-- Where no blank is in front, nothing is left out. -/
lemma dropWhile_of_head (head : ∀ c ∈ cs.head?, isBlank c = false) : cs.dropWhile isBlank = cs := by
  cases cs with
  | nil => rfl
  | cons c cs => exact List.dropWhile_cons_of_neg (by simp [head c rfl])

/-- Blanks at the end are left out. -/
lemma stripEnd_append (blank : ∀ c ∈ back, isBlank c = true) :
    stripEnd (cs ++ back) = stripEnd cs := by
  have turned : ∀ c ∈ back.reverse, isBlank c = true :=
    fun c mem => blank c (List.mem_reverse.1 mem)
  rw [stripEnd, List.reverse_append, dropWhile_blanks_append turned, stripEnd]

/-- Blanks around a text do not matter. -/
lemma strip_around (before : ∀ c ∈ front, isBlank c = true)
    (behind : ∀ c ∈ back, isBlank c = true) :
    strip (front ++ cs ++ back) = strip cs := by
  rw [strip, strip, List.append_assoc, dropWhile_blanks_append before, List.dropWhile_append]
  split
  · next none => rw [List.dropWhile_eq_nil_iff.2 behind, List.isEmpty_iff.1 none]
  · rw [stripEnd_append behind]

/-- Blanks behind a text do not matter. -/
lemma strip_append (behind : ∀ c ∈ back, isBlank c = true) : strip (cs ++ back) = strip cs := by
  have bare : strip ([] ++ cs ++ back) = strip cs := strip_around nofun behind
  rwa [List.nil_append] at bare

/-- A text without blanks around it stays as it is. -/
lemma strip_of_trim (trim : Trim cs) : strip cs = cs := by
  have last : ∀ c ∈ cs.reverse.head?, isBlank c = false := by
    rw [List.head?_reverse]
    exact trim.last
  rw [strip, dropWhile_of_head trim.head, stripEnd, dropWhile_of_head last, List.reverse_reverse]

/-- Nothing is left of a blank text. -/
lemma strip_of_blank (blank : ∀ c ∈ cs, isBlank c = true) : strip cs = [] := by
  have bare : strip ([] ++ cs) = strip [] := strip_append blank
  exact bare

/-- A text is what `strip` leaves, with blanks around it. -/
lemma exists_around_strip (cs : List Char) : ∃ front back, cs = front ++ strip cs ++ back ∧
    (∀ c ∈ front, isBlank c = true) ∧ ∀ c ∈ back, isBlank c = true := by
  refine ⟨cs.takeWhile isBlank, ((cs.dropWhile isBlank).reverse.takeWhile isBlank).reverse, ?_,
    fun _ => List.mem_takeWhile_imp, fun _ mem => List.mem_takeWhile_imp (List.mem_reverse.1 mem)⟩
  rw [strip, stripEnd, List.append_assoc, ← List.reverse_append, List.takeWhile_append_dropWhile,
    List.reverse_reverse, List.takeWhile_append_dropWhile]

end BookCatalog.Text
