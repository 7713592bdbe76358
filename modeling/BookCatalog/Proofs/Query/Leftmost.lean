import BookCatalog.Proofs.Query.Qualifier

/-!
# Leftmost qualifiers

A query is cut from left to right, and a qualifier is cut out at the first place where one can be
read. The central notions:

* `Qualifier.Stands`: a qualifier is read between two parts of a text.
* `Clear`: no qualifier is read inside a part of a text.
* `Leftmost`: pieces whose qualifiers stand where they are, and between which the text is clear. The
  pieces of a query are of this kind (`leftmost_segments`), and they are the only ones, up to how
  gaps are divided (`Leftmost.flatMap_segments`).
-/

namespace BookCatalog.Query

open Text

/-- The text that pieces make up. -/
def textOf (pieces : List Segment) : List Char :=
  pieces.flatMap Segment.source

/-- A qualifier is read between two parts of a text: the first one does not end inside a word, and
the second one begins with the qualifier. -/
def Qualifier.Stands (q : Qualifier) (front back : List Char) : Prop :=
  endsInWord front = false ∧ Qualifier.at? back = some q

/-- No qualifier is read at the places of a text that stands between two others. -/
def Clear (front text back : List Char) : Prop :=
  ∀ before after, before ++ after = text → after ≠ [] →
    ∀ q : Qualifier, ¬ q.Stands (front ++ before) (after ++ back)

/-- Pieces of a text behind `front`, from left to right: a gap is clear, and a qualifier is read
where it stands. -/
inductive Leftmost : List Char → List Segment → Prop where
  | nil {front} :
    Leftmost front []
  | gap {front text pieces} :
    Clear front text (textOf pieces) →
    Leftmost (front ++ text) pieces →
    Leftmost front (.gap text :: pieces)
  | qualifier {front q pieces} :
    q.Stands front (q.source ++ textOf pieces) →
    Leftmost (front ++ q.source) pieces →
    Leftmost front (.qualifier q :: pieces)

variable {cs front back text text' gap rest : List Char} {c : Char} {q : Qualifier}
  {pieces done : List Segment} {inWord : Bool}

@[simp] lemma textOf_nil : textOf [] = [] := rfl

@[simp] lemma textOf_cons (piece : Segment) (pieces : List Segment) :
    textOf (piece :: pieces) = piece.source ++ textOf pieces :=
  List.flatMap_cons

@[simp] lemma textOf_append (pieces pieces' : List Segment) :
    textOf (pieces ++ pieces') = textOf pieces ++ textOf pieces' :=
  List.flatMap_append

/-! ## Places -/

/-- An empty text is clear. -/
lemma clear_nil : Clear front [] back := by
  intro before after empty some
  exact absurd (List.append_eq_nil_iff.1 empty).2 some

/-- A text is clear if nothing is read at its first place and behind it. -/
lemma clear_cons : Clear front (c :: text) back ↔
    (∀ q : Qualifier, ¬ q.Stands front (c :: (text ++ back))) ∧ Clear (front ++ [c]) text back := by
  constructor
  · intro clear
    refine ⟨fun q => ?_, fun before after parts some q => ?_⟩
    · have here := clear [] (c :: text) rfl (List.cons_ne_nil _ _) q
      rwa [List.append_nil] at here
    · have later := clear (c :: before) after (congrArg (c :: ·) parts) some q
      rwa [List.append_assoc]
  · rintro ⟨here, later⟩ before after parts some q
    cases before with
    | nil =>
      rw [List.nil_append] at parts
      rw [parts, List.append_nil]
      exact here q
    | cons d before =>
      obtain ⟨rfl, tail⟩ := List.cons.inj parts
      have clear := later before after tail some q
      rwa [List.append_assoc] at clear

/-- Two texts side by side are clear if each is, next to the other. -/
lemma clear_append : Clear front (text ++ text') back ↔
    Clear front text (text' ++ back) ∧ Clear (front ++ text) text' back := by
  induction text generalizing front with
  | nil => simp [clear_nil]
  | cons c text ih => simp [clear_cons, ih, and_assoc]

/-- Where there is no colon, no qualifier is read. -/
lemma clear_of_colon (colon : ':' ∉ text) : Clear front text [] := by
  rintro before after rfl - q ⟨-, found⟩
  have absent : ':' ∉ after.takeWhile (· ≠ ' ') := fun mem =>
    colon (List.mem_append_right _ ((List.takeWhile_sublist _).subset mem))
  rw [List.append_nil, at?_eq_none absent] at found
  cases found

/-! ## Reading -/

section Reading

variable {α : Type} {f : Segment → List α}

/-- What `f` makes of the finished pieces and of the open gap. -/
def collect (f : Segment → List α) (done : List Segment) (gap : List Char) : List α :=
  done.reverse.flatMap f ++ f (.gap gap.reverse)

/-- A gap gives what its parts give. -/
structure Additive (f : Segment → List α) : Prop where
  nil : f (.gap []) = []
  append : ∀ a b, f (.gap (a ++ b)) = f (.gap a) ++ f (.gap b)

/-- What an open gap gives grows with the gap. -/
lemma Additive.collect_append (additive : Additive f) (cs : List Char) :
    collect f done (cs.reverse ++ gap) = collect f done gap ++ f (.gap cs) := by
  rw [collect, collect, List.reverse_append, List.reverse_reverse, additive.append,
    List.append_assoc]

/-- It makes no difference when a gap is closed. -/
lemma Additive.closeGap (additive : Additive f) :
    (closeGap gap done).reverse.flatMap f = collect f done gap := by
  rw [Query.closeGap, collect]
  split
  case isTrue empty => simp [List.isEmpty_iff.1 empty, additive.nil]
  case isFalse => simp

/-- A gap leaves what its parts leave. -/
lemma additive_kept : Additive Segment.kept where
  nil := rfl
  append _ _ := rfl

/-- A gap asks for nothing in a column, and neither do its parts. -/
lemma additive_terms (column : Column) : Additive (Segment.terms column) where
  nil := rfl
  append _ _ := rfl

/-- A character at which no qualifier is read joins the open gap. -/
lemma segmentsFrom_gap (front : inWord = false → Qualifier.at? (c :: rest) = none) :
    segmentsFrom done gap inWord (c :: rest) =
    segmentsFrom done (c :: gap) (isWordChar c) rest := by
  rw [segmentsFrom]
  cases inWord with
  | false => simp [front]
  | true => rfl

/-- Where no qualifier is read, the text goes to the open gap. -/
lemma segmentsFrom_clear (clear : Clear front text back) (done : List Segment) (gap : List Char) :
    segmentsFrom done gap (endsInWord front) (text ++ back) =
      segmentsFrom done (text.reverse ++ gap) (endsInWord (front ++ text)) back := by
  induction text generalizing front gap with
  | nil => simp
  | cons c text ih =>
    obtain ⟨here, later⟩ := clear_cons.1 clear
    have none : endsInWord front = false → Qualifier.at? (c :: (text ++ back)) = none :=
      fun outside => Option.eq_none_iff_forall_ne_some.2 fun q found => here q ⟨outside, found⟩
    rw [List.cons_append, segmentsFrom_gap none, ← endsInWord_concat front, ih later]
    simp

/-- A qualifier that is read ends the open gap, and reading goes on behind it. -/
lemma segmentsFrom_stands (stands : q.Stands front (q.source ++ back)) (done : List Segment)
    (gap : List Char) :
    segmentsFrom done gap (endsInWord front) (q.source ++ back) =
      segmentsFrom (.qualifier q :: closeGap gap done) []
      (endsInWord (front ++ q.source)) back := by
  obtain ⟨outside, found⟩ := stands
  rw [endsInWord_source (source_prefix_of_at? found).2, outside]
  -- what is dropped is the source without its first character
  cases whole : q.source with
  | nil => exact absurd whole q.source_ne_nil
  | cons c cs =>
    rw [whole, List.cons_append] at found
    rw [List.cons_append, segmentsFrom]
    simp only [Bool.false_eq_true, if_false, found]
    rw [whole, List.length_cons, Nat.add_sub_cancel, List.drop_left]

/-- Reading gives the pieces of any cutting from left to right, up to how its gaps are divided. -/
lemma Leftmost.flatMap_segmentsFrom (additive : Additive f)
    (leftmost : Leftmost front pieces) (done : List Segment) (gap : List Char) :
    (segmentsFrom done gap (endsInWord front) (textOf pieces)).flatMap f =
      collect f done gap ++ pieces.flatMap f := by
  induction leftmost generalizing done gap with
  | nil => rw [textOf_nil, segmentsFrom, additive.closeGap, List.flatMap_nil, List.append_nil]
  | @gap front text pieces clear _ ih =>
    rw [textOf_cons, Segment.source, segmentsFrom_clear clear, ih, additive.collect_append,
      List.flatMap_cons, List.append_assoc]
  | @qualifier front q pieces stands _ ih =>
    have closed : collect f (.qualifier q :: closeGap gap done) [] =
        collect f done gap ++ f (.qualifier q) := by
      rw [collect, List.reverse_cons, List.flatMap_append, additive.closeGap, List.reverse_nil,
        additive.nil, List.append_nil, List.flatMap_singleton]
    rw [textOf_cons, Segment.source, segmentsFrom_stands stands, ih, closed, List.flatMap_cons,
      List.append_assoc]

/-- The pieces of a query are those of any cutting from left to right, up to how its gaps are
divided. -/
theorem Leftmost.flatMap_segments (additive : Additive f)
    (leftmost : Leftmost [] pieces) : (segments (textOf pieces)).flatMap f = pieces.flatMap f := by
  have read := leftmost.flatMap_segmentsFrom additive [] []
  rwa [collect, List.reverse_nil, List.flatMap_nil, List.reverse_nil, additive.nil, List.nil_append,
    endsInWord_nil] at read

end Reading

/-- An open gap in which no qualifier is read becomes a piece in front of the others. -/
lemma Leftmost.closeGap (leftmost : Leftmost (front ++ gap.reverse) pieces)
    (clear : Clear front gap.reverse (textOf pieces)) (done : List Segment) :
    ∃ pieces', (Query.closeGap gap done).reverse ++ pieces = done.reverse ++ pieces' ∧
      Leftmost front pieces' ∧ textOf pieces' = gap.reverse ++ textOf pieces := by
  rw [Query.closeGap]
  split
  · next empty =>
    rw [List.isEmpty_iff.1 empty] at leftmost ⊢
    exact ⟨pieces, rfl, by simpa using leftmost, rfl⟩
  · exact ⟨.gap gap.reverse :: pieces, by simp, .gap clear leftmost, rfl⟩

/-- What is read behind an open gap is cut from left to right, the gap included. -/
lemma leftmost_segmentsFrom (clear : Clear front gap.reverse cs)
    (state : inWord = endsInWord (front ++ gap.reverse)) (done : List Segment) :
    ∃ pieces, segmentsFrom done gap inWord cs = done.reverse ++ pieces ∧ Leftmost front pieces ∧
      textOf pieces = gap.reverse ++ cs := by
  fun_induction segmentsFrom done gap inWord cs generalizing front with
  | case1 done gap inWord =>
    have closed := Leftmost.closeGap .nil clear done
    rwa [List.append_nil] at closed
  | case2 done gap inWord c rest q found ih =>
    have stands : q.Stands (front ++ gap.reverse) (c :: rest) := by
      split at found
      · cases found
      · next outside => exact ⟨by simpa [state] using outside, found⟩
    obtain ⟨⟨back, whole⟩, value⟩ := source_prefix_of_at? stands.2
    have behind : rest.drop (q.source.length - 1) = back := by
      have dropped := congrArg (List.drop q.source.length) whole
      rw [List.drop_left] at dropped
      obtain ⟨n, length⟩ :=
        Nat.exists_eq_succ_of_ne_zero (List.length_eq_zero_iff.not.2 q.source_ne_nil)
      rw [length] at dropped ⊢
      exact dropped.symm
    obtain ⟨pieces, read, leftmost, text⟩ := @ih (front ++ gap.reverse ++ q.source) clear_nil
      (by rw [List.reverse_nil, List.append_nil, endsInWord_source value])
    rw [List.reverse_nil, List.nil_append, behind] at text
    have own : textOf (.qualifier q :: pieces) = c :: rest := by
      rw [textOf_cons, text, ← whole, Segment.source]
    have closed := Leftmost.closeGap (.qualifier (by rwa [text, whole]) leftmost) (own ▸ clear) done
    rw [own] at closed
    rw [read, List.reverse_cons, List.append_assoc, List.singleton_append]
    exact closed
  | case3 done gap inWord c rest none ih =>
    have unread : ∀ q : Qualifier, ¬ q.Stands (front ++ gap.reverse) (c :: rest) := by
      rintro q ⟨outside, found⟩
      simp [state, outside, found] at none
    have grown : Clear front (c :: gap).reverse rest := by
      rw [List.reverse_cons]
      exact clear_append.2 ⟨clear, clear_cons.2 ⟨unread, clear_nil⟩⟩
    obtain ⟨pieces, read, leftmost, text⟩ := ih grown
      (by rw [List.reverse_cons, ← List.append_assoc, endsInWord_concat])
    refine ⟨pieces, read, leftmost, ?_⟩
    rw [text, List.reverse_cons, List.append_assoc, List.singleton_append]

/-- The pieces of a query are cut from left to right, and together they are the query. -/
theorem leftmost_segments (cs : List Char) :
    Leftmost [] (segments cs) ∧ textOf (segments cs) = cs := by
  have clear : Clear [] (List.reverse []) cs := clear_nil
  obtain ⟨pieces, read, leftmost, text⟩ := leftmost_segmentsFrom clear rfl []
  rw [List.reverse_nil, List.nil_append] at read text
  rw [endsInWord_nil] at read
  rw [segments, read]
  exact ⟨leftmost, text⟩

end BookCatalog.Query
