import BookCatalog.Proofs.Query.Gaps

/-!
# What is left of a query

A query whose qualifiers are all cut out leaves a text without qualifiers (`parse_remainder`). In
that text the gaps stand side by side, as they never did in the query. The central facts:

* `isSome_at?_of_gap`: the name and the colon of what would be read stand in one gap, as a gap in
  front of a cut ends outside a word.
* `Leftmost.isSome_at?`: so it would be read in the query, too.
* `Leftmost.clear_kept`: therefore nothing is read in what is left.
-/

namespace BookCatalog.Query

open Text

/-- The name of every qualifier stands for a column. -/
def AllNamed (pieces : List Segment) : Prop :=
  ∀ q : Qualifier, .qualifier q ∈ pieces → (Column.ofName? q.name).isSome = true

/-- The qualifier that a piece is, if it is one. -/
def Segment.qualifiers : Segment → List Qualifier
  | .gap _ => []
  | .qualifier q => [q]

variable {cs front front' back back' gap text : List Char} {q : Qualifier} {piece : Segment}
  {pieces : List Segment}

/-- The qualifiers are those among the pieces. -/
lemma mem_qualifiers : q ∈ pieces.flatMap Segment.qualifiers ↔ .qualifier q ∈ pieces := by
  rw [List.mem_flatMap]
  constructor
  · rintro ⟨piece, listed, own⟩
    cases piece with
    | gap => cases own
    | qualifier q' => exact List.mem_singleton.1 own ▸ listed
  · exact fun listed => ⟨_, listed, List.mem_singleton_self q⟩

instance : Decidable (AllNamed pieces) :=
  decidable_of_iff (∀ q ∈ pieces.flatMap Segment.qualifiers, (Column.ofName? q.name).isSome = true)
    (forall_congr' fun _ => imp_congr_left mem_qualifiers)

/-- If all qualifiers are named, so are all behind the first piece. -/
lemma AllNamed.tail (named : AllNamed (piece :: pieces)) : AllNamed pieces :=
  fun q mem => named q (List.mem_cons_of_mem _ mem)

/-- A qualifier that is named leaves nothing. -/
lemma AllNamed.flatMap_kept (named : AllNamed (.qualifier q :: pieces)) :
    (Segment.qualifier q :: pieces).flatMap Segment.kept = pieces.flatMap Segment.kept := by
  have cut : (Segment.qualifier q).isCut = true := named q List.mem_cons_self
  rw [List.flatMap_cons, kept_of_isCut cut, List.nil_append]

/-- A text of letters and digits ends in a word. -/
lemma endsInWord_of_alnum (some : text ≠ []) (alnum : ∀ c ∈ text, isAlnum c = true) :
    endsInWord text = true := by
  obtain ⟨before, c, rfl⟩ := (List.eq_nil_or_concat text).resolve_left some
  rw [List.concat_eq_append] at alnum ⊢
  rw [endsInWord_concat, isWordChar, alnum c (by simp), Bool.true_or]

/-- What is read across the end of a gap is read whatever comes behind the gap, if that is no
blank. -/
lemma isSome_at?_of_gap (some : gap ≠ []) (outside : endsInWord gap = false)
    (nonblank : ∃ c ∈ back'.head?, isBlank c = false)
    (found : (Qualifier.at? (gap ++ back)).isSome) :
    (Qualifier.at? (gap ++ back')).isSome := by
  rw [isSome_at?_iff] at found ⊢
  obtain ⟨entry, listed, name, behind, spelled, whole, first⟩ := found
  -- no gap ends inside the name
  have other : ∀ rest, name ≠ gap ++ rest := by
    rintro rest rfl
    have inside := endsInWord_of_alnum some fun c mem =>
      (name_alnum listed spelled).2 c (List.mem_append_left _ mem)
    rw [outside] at inside
    cases inside
  obtain ⟨rest, e, -⟩ | ⟨rest, rfl, e⟩ := List.append_eq_append_iff.1 whole
  · exact absurd e (other rest)
  · cases rest with
    | nil => exact absurd (by simp) (other [])
    | cons c rest =>
      obtain ⟨rfl, rfl⟩ := List.cons.inj e
      refine ⟨entry, listed, name, rest ++ back', spelled, by simp, ?_⟩
      cases rest with
      | nil => exact nonblank
      | cons d rest => exact first

/-- What would be read in a gap with what is left behind it is read in the query, too. -/
lemma Leftmost.isSome_at? (leftmost : Leftmost front pieces) (named : AllNamed pieces)
    (suffix : gap <:+ front) (some : gap ≠ [])
    (found : (Qualifier.at? (gap ++ pieces.flatMap Segment.kept)).isSome) :
    (Qualifier.at? (gap ++ textOf pieces)).isSome := by
  induction leftmost generalizing gap with
  | nil => exact found
  | @gap front text pieces _ _ ih =>
    rw [List.flatMap_cons, Segment.kept, ← List.append_assoc] at found
    rw [textOf_cons, Segment.source, ← List.append_assoc]
    exact ih named.tail (List.suffix_append_self_iff.2 suffix) (by simp [some]) found
  | @qualifier front q pieces stands _ _ =>
    rw [named.flatMap_kept] at found
    exact isSome_at?_of_gap some (endsInWord_of_suffix suffix stands.1) (head_of_at? stands.2) found

/-- Two texts are alike in front of a third one: both end inside a word or none does, or a blank or
nothing comes next. -/
def EndsAlike (front front' back : List Char) : Prop :=
  endsInWord front' = endsInWord front ∨ ∀ c ∈ back.head?, isBlank c = true

/-- Texts that are alike in front of a qualifier both end in a word, or none does. -/
lemma EndsAlike.endsInWord (alike : EndsAlike front front' back)
    (found : Qualifier.at? back = some q) :
    endsInWord front' = endsInWord front := by
  refine alike.resolve_right fun blank => ?_
  obtain ⟨c, first, nonblank⟩ := head_of_at? found
  rw [blank c first] at nonblank
  cases nonblank

/-- Nothing is read in what is left of a query whose qualifiers are all cut out, behind a text that
is alike. -/
lemma Leftmost.clear_kept (leftmost : Leftmost front pieces) (named : AllNamed pieces)
    (alike : EndsAlike front front' (textOf pieces)) :
    Clear front' (pieces.flatMap Segment.kept) [] := by
  induction leftmost generalizing front' with
  | nil => exact clear_nil
  | @gap front text pieces clear tail ih =>
    rw [textOf_cons, Segment.source] at alike
    rw [List.flatMap_cons, Segment.kept, clear_append, List.append_nil]
    constructor
    · -- a qualifier that begins in the gap would begin there in the query
      rintro before after rfl some q ⟨outside, found⟩
      have suffix : after <:+ front ++ (before ++ after) :=
        List.suffix_append_of_suffix (List.suffix_append before after)
      obtain ⟨q', read⟩ :=
        Option.isSome_iff_exists.1 (tail.isSome_at? named.tail suffix some (by rw [found]; rfl))
      refine clear before after rfl some q' ⟨?_, read⟩
      by_cases start : before = []
      · subst start
        rw [List.append_nil] at outside ⊢
        rw [← alike.endsInWord read, outside]
      · rwa [endsInWord_append start] at outside ⊢
    · refine ih named.tail ?_
      by_cases empty : text = []
      · subst empty
        rwa [List.append_nil, List.append_nil]
      · exact .inl (by rw [endsInWord_append empty, endsInWord_append empty])
  | @qualifier front q pieces stands tail ih =>
    rw [named.flatMap_kept]
    -- behind a quote no word is open, and in front of the qualifier none was
    refine ih named.tail ((ends_of_at? stands.2).imp_left fun closed => ?_)
    rw [endsInWord_source (source_prefix_of_at? stands.2).2, closed,
      alike.endsInWord stands.2, stands.1]

/-- A gap is no qualifier, and neither are its parts. -/
lemma additive_qualifiers : Additive Segment.qualifiers where
  nil := rfl
  append _ _ := rfl

/-- What is left of a query whose qualifiers are all cut out is read as one gap. -/
lemma flatMap_segments_remainder {α : Type} {f : Segment → List α} (additive : Additive f)
    (named : AllNamed (segments cs)) :
    (segments (parse cs).remainder).flatMap f = f (.gap (parse cs).remainder) := by
  apply flatMap_segments_of_clear additive
  rw [remainder_parse]
  split
  · exact clear_nil
  · exact (leftmost_segments cs).1.clear_kept named (.inl rfl)

/-- What is left of a query whose qualifiers are all cut out has no qualifiers, asks for nothing in
any column and has the words of the query. -/
theorem parse_remainder (named : AllNamed (segments cs)) :
    (∀ q : Qualifier, .qualifier q ∉ segments (parse cs).remainder) ∧
      (∀ column, (parse (parse cs).remainder).terms column = []) ∧
      (parse (parse cs).remainder).general = (parse cs).general := by
  refine ⟨fun q mem => ?_, fun column => ?_, ?_⟩
  · rw [← mem_qualifiers, flatMap_segments_remainder additive_qualifiers named] at mem
    cases mem
  · rw [terms_parse, flatMap_segments_remainder (additive_terms column) named, Segment.terms]
  · rw [general_parse, flatMap_segments_remainder additive_kept named, Segment.kept, general_eq]

/-- Two qualifiers side by side, and the words around them. -/
theorem remainder_of_adjacent :
    AllNamed (segments "by author:\"umberto eco\"series:2 name".toList) ∧
      (∀ column,
        (parse (parse "by author:\"umberto eco\"series:2 name".toList).remainder).terms column =
          []) ∧
      (parse (parse "by author:\"umberto eco\"series:2 name".toList).remainder).general =
        ["by".toList, "name".toList] := by
  have named : AllNamed (segments "by author:\"umberto eco\"series:2 name".toList) := by
    decide +kernel
  obtain ⟨-, terms, general⟩ := parse_remainder named
  exact ⟨named, terms, general.trans (by decide +kernel)⟩

end BookCatalog.Query
