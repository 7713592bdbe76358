import BookCatalog.Index.Grammar
import BookCatalog.Proofs.Text.Runs
import BookCatalog.Proofs.Text.Span

/-!
# Reading what was written

How texts that are put together are cut into tokens, and how tokens that are put together are read.
The central notions:

* `Scans`: a text is cut into certain tokens, whatever comes behind it. Such texts can be put
  together (`Scans.append`), also with an operator between them (`Scans.joinWith`).
* `joined`: tokens with an operator between them. A chain reads them as long as its operands know
  what to leave for it (`chain_joined`).
-/

namespace BookCatalog.Index

open Text

variable {c : Char} {w text text' rest : List Char} {ts ts' : List Token} {t : Token}

/-! ## Tokens -/

/-- A mark is no gap, no quote and no part of a bare word. -/
lemma not_bare_of_mark (mark : mark? c = some t) :
    isGap c = false ∧ c ≠ '"' ∧ isBare c = false := by
  revert mark
  rw [mark?.eq_def]
  split
  case h_11 => exact nofun
  all_goals exact fun _ => ⟨by decide, by decide, rfl⟩

/-- A part of a bare word is no gap, no quote and no mark. -/
lemma of_isBare (bare : isBare c = true) : isGap c = false ∧ c ≠ '"' ∧ mark? c = none := by
  refine ⟨?_, fun quote => ?_, ?_⟩
  · rw [← Bool.not_eq_true]
    intro gap
    simp only [isGap, Bool.or_eq_true, beq_iff_eq, or_assoc] at gap
    rcases gap with rfl | rfl | rfl | rfl <;> exact absurd bare Bool.false_ne_true
  · rw [quote] at bare
    exact absurd bare Bool.false_ne_true
  · cases mark : mark? c with
    | none => rfl
    | some t =>
      rw [(not_bare_of_mark mark).2.2] at bare
      cases bare

/-- An empty text has no tokens. -/
lemma scan_nil : scan [] = some [] := by
  rw [scan]

/-- A gap is skipped. -/
lemma scan_gap (gap : isGap c = true) (rest : List Char) : scan (c :: rest) = scan rest := by
  rw [scan, if_pos gap]

/-- A mark is a token of its own. -/
lemma scan_mark (mark : mark? c = some t) (rest : List Char) :
    scan (c :: rest) = (scan rest).map (t :: ·) := by
  obtain ⟨gap, quote, -⟩ := not_bare_of_mark mark
  rw [scan, if_neg (by simp [gap]), if_neg quote, mark]

/-- A bare word ends at the first character that is none of a bare word. -/
lemma scan_bare (bare : ∀ c ∈ w, isBare c = true) (ne : w ≠ [])
    (apart : ∀ c ∈ rest.head?, isBare c = false) :
    scan (w ++ rest) = (scan rest).map (bareToken w :: ·) := by
  cases w with
  | nil => exact absurd rfl ne
  | cons c w =>
    obtain ⟨first, others⟩ := List.forall_mem_cons.1 bare
    obtain ⟨gap, quote, mark⟩ := of_isBare first
    have taken : rest.takeWhile isBare = [] := by
      cases rest with
      | nil => rfl
      | cons d rest => simp [apart d rfl]
    have left : rest.dropWhile isBare = rest := by
      cases rest with
      | nil => rfl
      | cons d rest => simp [apart d rfl]
    rw [List.cons_append, scan, if_neg (by simp [gap]), if_neg quote, mark]
    simp only
    rw [if_pos first, List.takeWhile_append_of_pos others,
      List.dropWhile_append_of_pos others, taken, left, List.append_nil]

/-- Whatever comes behind it, a text is cut into certain tokens. -/
def Scans (text : List Char) (ts : List Token) : Prop :=
  ∀ rest, scan (text ++ rest) = (scan rest).map (ts ++ ·)

/-- What is scanned as tokens in front of any text is scanned as these alone. -/
lemma Scans.scan (scans : Scans text ts) : scan text = some ts := by
  have alone := scans []
  rw [List.append_nil, scan_nil] at alone
  simpa using alone

/-- An empty text adds no tokens. -/
lemma scans_nil : Scans [] [] := fun rest => by simp

/-- Texts that are scanned one by one are scanned together. -/
lemma Scans.append (scans : Scans text ts) (scans' : Scans text' ts') :
    Scans (text ++ text') (ts ++ ts') := by
  intro rest
  rw [List.append_assoc, scans, scans', Option.map_map]
  congr 1
  funext behind
  exact (List.append_assoc _ _ _).symm

/-- A mark is scanned as its token, whatever comes behind it. -/
lemma scans_mark (mark : mark? c = some t) : Scans [c] [t] :=
  fun rest => scan_mark mark rest

/-- A bare word and a mark behind it. -/
lemma scans_bare (bare : ∀ c ∈ w, isBare c = true) (ne : w ≠ []) (mark : mark? c = some t) :
    Scans (w ++ [c]) [bareToken w, t] := by
  intro rest
  have apart : ∀ d ∈ (c :: rest).head?, isBare d = false := by
    intro d front
    cases front
    exact (not_bare_of_mark mark).2.2
  rw [List.append_assoc, List.singleton_append, scan_bare bare ne apart, scan_mark mark,
    Option.map_map]
  rfl

/-- A bare word between spaces. -/
lemma scans_spaced (bare : ∀ c ∈ w, isBare c = true) (ne : w ≠ []) :
    Scans (' ' :: (w ++ [' '])) [bareToken w] := by
  intro rest
  have apart : ∀ d ∈ (' ' :: rest).head?, isBare d = false := by
    intro d front
    cases front
    rfl
  rw [List.cons_append, scan_gap (by decide), List.append_assoc, List.singleton_append,
    scan_bare bare ne apart, scan_gap (by decide)]
  rfl

/-- Tokens with an operator between them. -/
def joined (op : Token) : List (List Token) → List Token
  | [] => []
  | first :: others => first ++ others.flatMap (op :: ·)

/-- Joined texts are scanned as the tokens of each with those of the separator between them. -/
lemma Scans.joinWith {β : Type} {sep : List Char} {op : Token} {text : β → List Char}
    {tokens : β → List Token} {bs : List β} (scans : ∀ b ∈ bs, Scans (text b) (tokens b))
    (between : Scans sep [op]) :
    Scans (Text.joinWith sep (bs.map text)) (joined op (bs.map tokens)) := by
  cases bs with
  | nil => exact scans_nil
  | cons first others =>
    obtain ⟨head, tail⟩ := List.forall_mem_cons.1 scans
    rw [List.map_cons, List.map_cons, Text.joinWith, joined]
    refine head.append ?_
    clear head scans
    induction others with
    | nil => exact scans_nil
    | cons b others ih =>
      obtain ⟨here, later⟩ := List.forall_mem_cons.1 tail
      rw [List.map_cons, List.map_cons, List.flatMap_cons, List.flatMap_cons]
      exact (between.append here).append (ih later)

/-! ## Readers -/

section Readers

variable {α β : Type} {item other : Reader α} {op : Token} {join : α → α → α} {a : α}
  {behind : List Token}

/-- Nothing is repeated if there is no first item. -/
lemma many_none (none : item ts = none) : many item ts = ([], ts) := by
  rw [many, none]

/-- A first item that takes something has the other ones behind it. -/
lemma many_some (found : item ts = some (a, behind)) (shorter : behind.length < ts.length) :
    many item ts = (a :: (many item behind).1, (many item behind).2) := by
  rw [many, found]
  simp only [if_pos shorter]

/-- One item and as many as there are behind it. -/
lemma oneOrMore_of_item (found : item ts = some (a, behind)) :
    oneOrMore item other ts = some ((a, (many other behind).1), (many other behind).2) := by
  rw [oneOrMore, found]
  rfl

/-- Without the operator nothing comes after it. -/
lemma after_none (stops : behind.head? ≠ some op) : after op item behind = none := by
  cases behind with
  | nil => rfl
  | cons t behind => rw [after, if_neg fun same => stops (congrArg some same)]

/-- An operand without an operator behind it is a chain. -/
lemma chain_one (found : item ts = some (a, behind)) (stops : behind.head? ≠ some op) :
    chain op join item ts = some (a, behind) := by
  rw [chain, oneOrMore_of_item found, many_none (after_none stops)]
  rfl

variable {value : β → α} {tokens : β → List Token} {Ends : List Token → Prop} {bs : List β} {b : β}

/-- A repeated operator with an item is read as often as it is there. -/
lemma many_after (reads : ∀ b ∈ bs, ∀ behind, Ends behind →
      item (tokens b ++ behind) = some (value b, behind))
    (goes : ∀ behind, Ends (op :: behind)) (ends : Ends behind) (stops : behind.head? ≠ some op) :
    many (after op item) ((bs.map tokens).flatMap (op :: ·) ++ behind) =
      (bs.map value, behind) := by
  induction bs with
  | nil => exact many_none (after_none stops)
  | cons b bs ih =>
    obtain ⟨here, later⟩ := List.forall_mem_cons.1 reads
    -- an operand leaves the operator behind it, or what the last one leaves
    have left : Ends ((bs.map tokens).flatMap (op :: ·) ++ behind) := by
      cases bs with
      | nil => exact ends
      | cons => exact goes _
    have found : after op item (op :: (tokens b ++ ((bs.map tokens).flatMap (op :: ·) ++ behind))) =
        some (value b, (bs.map tokens).flatMap (op :: ·) ++ behind) := by
      rw [after, if_pos rfl]
      exact here _ left
    rw [List.map_cons, List.flatMap_cons, List.append_assoc, List.cons_append,
      many_some found (by simp only [List.length_cons, List.length_append]; omega), ih later]
    rfl

/-- What is written with an operator between is put together from the left. -/
theorem chain_joined (reads : ∀ c ∈ b :: bs, ∀ behind, Ends behind →
      item (tokens c ++ behind) = some (value c, behind))
    (goes : ∀ behind, Ends (op :: behind)) (ends : Ends behind) (stops : behind.head? ≠ some op) :
    chain op join item (joined op ((b :: bs).map tokens) ++ behind) =
      some ((bs.map value).foldl join (value b), behind) := by
  obtain ⟨first, others⟩ := List.forall_mem_cons.1 reads
  have left : Ends ((bs.map tokens).flatMap (op :: ·) ++ behind) := by
    cases bs with
    | nil => exact ends
    | cons => exact goes _
  rw [List.map_cons, joined, List.append_assoc, chain, oneOrMore_of_item (first _ left),
    many_after others goes ends stops]
  rfl

end Readers

end BookCatalog.Index
