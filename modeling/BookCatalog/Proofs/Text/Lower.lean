import BookCatalog.Proofs.Text.Span
import BookCatalog.Text.Alnum
import BookCatalog.Text.Lowercase

/-!
# Lowercase, character by character

Letters and digits become letters and digits when they are put into lowercase, and other characters
stay what they are (`shift_cases`). There are two exceptions: capitals in circles are no letters
here, and a dotted capital leaves a mark behind its letter. A text without letters and digits that
occurs in another text occurs in its lowercase form too (`occurs_lower`), and the other way round
where the exceptions have no part in it (`occurs_of_lower`).

A lowercase form is its own lowercase form (`lower_lower`), because its characters are so wherever
they stand (`Small`).
-/

namespace BookCatalog.Text

variable {c d : Char} {cs u v before after out : List Char} {blocks : List (List Char)}

/-! ## Letters and other characters -/

/-- The case run of the capitals in circles, Ⓐ to Ⓩ. -/
def circledRun : CaseRun := ⟨0x24B6, 0x24CF, 1, 26⟩

/-- A capital in a circle, which has a small letter but counts as no letter. -/
def isCircled (c : Char) : Bool :=
  0x24B6 ≤ c.toNat && c.toNat ≤ 0x24CF

/-- The capitals in circles are those from U+24B6 to U+24CF. -/
lemma isCircled_iff : isCircled c = true ↔ 0x24B6 ≤ c.toNat ∧ c.toNat ≤ 0x24CF := by
  rw [isCircled, Bool.and_eq_true, decide_eq_true_eq, decide_eq_true_eq]

/-- What the table of letters and digits shows at a glance. -/
lemma alnum_facts :
    Ascending alnumSpans ∧ liesIn [(0, 0xD7FF), (0xE000, 0x10FFFF)] alnumSpans = true ∧
    Apart [(0x24B6, 0x24E9)] alnumSpans ∧ isAlnum 'Σ' = true ∧ isAlnum 'İ' = true ∧
    isAlnum 'ς' = true ∧ isAlnum 'σ' = true := by
  decide +kernel

/-- The table of letters and digits is in order. -/
lemma alnum_ascending : Ascending alnumSpans :=
  alnum_facts.1

def letterRuns : List CaseRun :=
  lowerRuns.filter (· ≠ circledRun)

/-- All other case runs lead from letters or digits to letters or digits. -/
lemma letterRuns_alnum : liesIn alnumSpans (letterRuns.flatMap CaseRun.places) = true ∧
    liesIn alnumSpans ((targets letterRuns).insertionSort fun a b => a.1 ≤ b.1) = true := by
  decide +kernel

/-- A character that is moved is a letter or digit and becomes one, unless it is in a circle. -/
lemma alnum_of_moved {n m : Nat} (moved : shifted? lowerRuns n = some m) :
    (0x24B6 ≤ n ∧ n ≤ 0x24CF) ∨
      covers alnumSpans n = true ∧ covers alnumSpans m = true := by
  obtain ⟨run, mem, ⟨first, last⟩, rfl, span, own, above, below⟩ := exists_run moved
  by_cases circled : run = circledRun
  · subst circled
    exact .inl ⟨first, last⟩
  · have other : run ∈ letterRuns := List.mem_filter.2 ⟨mem, by simpa using circled⟩
    refine .inr ⟨?_, ?_⟩
    · obtain ⟨span', mem', begins, ends⟩ :=
        exists_outer letterRuns_alnum.1 (List.mem_flatMap.2 ⟨run, other, own⟩)
      exact covers_of_mem alnum_ascending mem' (begins.trans above) (below.trans ends)
    · obtain ⟨span', mem', begins, ends⟩ :=
        exists_outer letterRuns_alnum.2 ((List.mem_insertionSort _).2 (List.mem_map_of_mem other))
      refine covers_of_mem alnum_ascending mem' (begins.trans ?_) (le_trans ?_ ends) <;>
        exact Int.toNat_le_toNat (by omega)

/-- Every code point of a letter or digit is a character. -/
lemma toNat_of_alnum {n : Nat} (alnum : covers alnumSpans n = true) : (Char.ofNat n).toNat = n := by
  have valid : n.isValidChar := by
    obtain ⟨span, mem, first, last⟩ :=
      exists_span (covers_of_liesIn (by decide) alnum_facts.2.1 alnum)
    simp only [List.mem_cons, List.not_mem_nil, or_false] at mem
    rcases mem with rfl | rfl
    · exact .inl (by simp only at last; omega)
    · exact .inr ⟨by simp only at first; omega, by simp only at last; omega⟩
  simp only [Char.toNat_ofNat, valid, if_true]

/-- A letter or digit becomes one, and other characters stay what they are. -/
lemma shift_cases (plain : isCircled c = false) :
    isAlnum c = true ∧ isAlnum (shift lowerRuns c) = true ∨ shift lowerRuns c = c := by
  rw [shift]
  split
  · next m moved =>
    rcases alnum_of_moved moved with inside | ⟨before, behind⟩
    · rw [isCircled_iff.2 inside] at plain
      cases plain
    · refine .inl ⟨before, ?_⟩
      rw [isAlnum, toNat_of_alnum behind]
      exact behind
  · exact .inr rfl

/-- What is neither letter nor digit nor a capital in a circle stays as it is. -/
lemma shift_eq_self (alnum : isAlnum c = false) (plain : isCircled c = false) :
    shift lowerRuns c = c := by
  rcases shift_cases plain with ⟨letter, -⟩ | same
  · rw [alnum] at letter
    cases letter
  · exact same

/-- A capital in a circle has a small letter in a circle. -/
lemma circled_shifted : ∀ n < 26, shifted? lowerRuns (0x24B6 + n) = some (0x24D0 + n) := by
  decide +kernel

/-- A capital in a circle becomes a small letter in a circle. -/
lemma toNat_shift_circled (circled : isCircled c = true) :
    (shift lowerRuns c).toNat = c.toNat + 26 := by
  obtain ⟨first, last⟩ := isCircled_iff.1 circled
  have moved := circled_shifted (c.toNat - 0x24B6) (by omega)
  rw [Nat.add_sub_cancel' first] at moved
  rw [shift, moved]
  have valid : (0x24D0 + (c.toNat - 0x24B6)).isValidChar := .inl (by omega)
  simp only [Char.toNat_ofNat, valid, if_true]
  omega

/-- Letters in circles count as no letters. -/
lemma not_alnum_of_circled {n : Nat} (first : 0x24B6 ≤ n) (last : n ≤ 0x24E9) :
    covers alnumSpans n = false :=
  alnum_facts.2.2.1.not_covers (by simp [covers, first, last])

/-- What becomes of a character that is no letter is neither a letter nor a capital. -/
lemma shift_unlettered (alnum : isAlnum c = false) :
    isAlnum (shift lowerRuns c) = false ∧ isCircled (shift lowerRuns c) = false ∧
      (shift lowerRuns c = '\x00' → c = '\x00') := by
  cases circled : isCircled c with
  | false =>
    rw [shift_eq_self alnum circled]
    exact ⟨alnum, circled, id⟩
  | true =>
    have moved := toNat_shift_circled circled
    obtain ⟨first, last⟩ := isCircled_iff.1 circled
    refine ⟨?_, ?_, fun zero => ?_⟩
    · rw [isAlnum, moved]
      exact not_alnum_of_circled (by omega) (by omega)
    · rw [← Bool.not_eq_true, isCircled_iff, moved]
      omega
    · rw [zero] at moved
      cases moved

/-- A letter or digit is put into lowercase as one. -/
lemma isAlnum_shift (alnum : isAlnum c = true) : isAlnum (shift lowerRuns c) = true := by
  have plain : isCircled c = false := by
    rw [← Bool.not_eq_true]
    intro circled
    obtain ⟨first, last⟩ := isCircled_iff.1 circled
    rw [isAlnum, not_alnum_of_circled first (by omega)] at alnum
    cases alnum
  rcases shift_cases plain with ⟨-, behind⟩ | same
  · exact behind
  · rw [same]
    exact alnum

/-! ## Lowercase forms -/

/-- The characters with a rule of their own are letters. -/
lemma sigma_dotted_alnum : isAlnum 'Σ' = true ∧ isAlnum 'İ' = true ∧ isAlnum 'ς' = true ∧
    isAlnum 'σ' = true :=
  alnum_facts.2.2.2

/-- What is neither letter nor digit is put into lowercase on its own. -/
lemma lowerIn_unlettered (alnum : isAlnum c = false) :
    lowerIn before after c = [shift lowerRuns c] := by
  obtain ⟨sigma, dotted, -, -⟩ := sigma_dotted_alnum
  have other : c ≠ 'Σ' := by
    rintro rfl
    rw [sigma] at alnum
    cases alnum
  have undotted : c ≠ 'İ' := by
    rintro rfl
    rw [dotted] at alnum
    cases alnum
  rw [lowerIn, if_neg other, lowerChar, if_neg undotted]

/-- Something becomes of every character. -/
lemma lowerIn_ne_nil : lowerIn before after c ≠ [] := by
  rw [lowerIn, lowerChar]
  split
  · exact List.cons_ne_nil _ _
  · split <;> exact List.cons_ne_nil _ _

/-- Letters and digits come of a letter or digit, unless it is the dotted capital. -/
lemma isAlnum_of_mem_lowerIn (alnum : isAlnum c = true) (undotted : c ≠ 'İ')
    (mem : d ∈ lowerIn before after c) : isAlnum d = true := by
  obtain ⟨-, -, final, inner⟩ := sigma_dotted_alnum
  rw [lowerIn] at mem
  split at mem
  · cases List.mem_singleton.1 mem
    split
    · exact final
    · exact inner
  · rw [lowerChar, if_neg undotted] at mem
    cases List.mem_singleton.1 mem
    exact isAlnum_shift alnum

/-- What becomes of the characters of a text, one by one. -/
def lowerParts (before : List Char) : List Char → List (List Char)
  | [] => []
  | c :: rest => lowerIn before rest c :: lowerParts (c :: before) rest

/-- A text is put into lowercase part by part. -/
lemma lowerFrom_eq (out before cs : List Char) :
    lowerFrom out before cs = out.reverse ++ (lowerParts before cs).flatten := by
  induction cs generalizing out before with
  | nil => rw [lowerFrom, lowerParts, List.flatten_nil, List.append_nil]
  | cons c rest ih =>
    rw [lowerFrom, ih, lowerParts, List.flatten_cons, List.reverse_append, List.reverse_reverse,
      List.append_assoc]

/-- The lowercase form of a text is made of its parts. -/
lemma lower_eq_flatten (cs : List Char) : lower cs = (lowerParts [] cs).flatten :=
  lowerFrom_eq [] [] cs

/-- What holds of every part holds of them one by one. -/
lemma forall₂_lowerParts {R : Char → List Char → Prop}
    (each : ∀ c ∈ cs, ∀ before after, R c (lowerIn before after c)) (before : List Char) :
    List.Forall₂ R cs (lowerParts before cs) := by
  induction cs generalizing before with
  | nil => exact .nil
  | cons c rest ih =>
    obtain ⟨own, others⟩ := List.forall_mem_cons.1 each
    exact .cons (own before rest) (ih others (c :: before))

/-- What stands in the lowercase form of a text has become of one of its characters. -/
lemma exists_of_mem_lower (mem : d ∈ lower cs) :
    ∃ c ∈ cs, ∃ before after, d ∈ lowerIn before after c := by
  rw [lower_eq_flatten] at mem
  -- by induction on the text, whatever stands in front of it
  generalize [] = front at mem
  induction cs generalizing front with
  | nil => cases mem
  | cons c rest ih =>
    rw [lowerParts, List.flatten_cons, List.mem_append] at mem
    rcases mem with own | later
    · exact ⟨c, List.mem_cons_self, front, rest, own⟩
    · obtain ⟨c', mem, others⟩ := ih _ later
      exact ⟨c', List.mem_cons_of_mem _ mem, others⟩

/-- A text without letters becomes one without letters and capitals. -/
lemma lower_of_unlettered (unlettered : ∀ c ∈ cs, isAlnum c = false) :
    lower cs = cs.map (shift lowerRuns) := by
  have parts : List.Forall₂ (fun c part => part = [shift lowerRuns c]) cs (lowerParts [] cs) :=
    forall₂_lowerParts (fun c mem before after => lowerIn_unlettered (unlettered c mem)) []
  rw [lower_eq_flatten]
  generalize lowerParts [] cs = blocks at parts ⊢
  clear unlettered
  induction parts with
  | nil => rfl
  | cons own _ ih => rw [List.flatten_cons, own, ih, List.map_cons, List.singleton_append]

/-! ## Lowercase forms of lowercase forms -/

/-- A character that is its own lowercase form, whatever stands around it. -/
def Small (c : Char) : Prop :=
  ∀ before after, lowerIn before after c = [c]

/-- No character is moved to a place from which characters are moved, nor to the dotted capital. -/
lemma targets_apart_places :
    Apart (lowerRuns.flatMap CaseRun.targets) (lowerRuns.flatMap CaseRun.places) ∧
    Apart (targets lowerRuns) [('İ'.toNat, 'İ'.toNat)] := by
  have sorted :
      Ascending ((lowerRuns.flatMap CaseRun.targets).insertionSort fun a b => a.1 ≤ b.1) :=
    List.isChain_iff_pairwise.2 ((List.pairwise_insertionSort _ _).map _ fun _ _ le => le)
  have outside : liesOutside (lowerRuns.flatMap CaseRun.places)
      ((lowerRuns.flatMap CaseRun.targets).insertionSort fun a b => a.1 ≤ b.1) = true := by
    decide +kernel
  refine ⟨fun span mem => ?_, by decide +kernel⟩
  exact apart_of_liesOutside (by decide +kernel) sorted outside span
    ((List.mem_insertionSort _).2 mem)

/-- Lowercase stays as it is. -/
lemma shift_shift (c : Char) : shift lowerRuns (shift lowerRuns c) = shift lowerRuns c := by
  cases moved : shifted? lowerRuns c.toNat with
  | none =>
    have same : shift lowerRuns c = c := by rw [shift, moved]
    rw [same, same]
  | some m =>
    have form : shift lowerRuns c = Char.ofNat m := by rw [shift, moved]
    have settled : shifted? lowerRuns (Char.ofNat m).toNat = none := by
      rw [Char.toNat_ofNat]
      split
      · exact shifted?_of_target targets_apart_places.1 moved
      · rfl
    rw [form, shift, settled]

/-- A character that is not moved is its own lowercase form, with two exceptions. -/
lemma small_of_shift (sigma : c ≠ 'Σ') (undotted : c ≠ 'İ') (same : shift lowerRuns c = c) :
    Small c := by
  intro before after
  rw [lowerIn, if_neg sigma, lowerChar, if_neg undotted, same]

/-- What a character is moved to is its own lowercase form. -/
lemma small_shift (undotted : c ≠ 'İ') : Small (shift lowerRuns c) := by
  refine small_of_shift ?_ ?_ (shift_shift c)
  · intro sigma
    have again := shift_shift c
    rw [sigma] at again
    revert again
    decide +kernel
  · intro dotted
    have other : covers [('İ'.toNat, 'İ'.toNat)] c.toNat = false := by
      rw [← Bool.not_eq_true]
      intro covered
      obtain ⟨span, mem, above, below⟩ := exists_span covered
      cases List.mem_singleton.1 mem
      exact undotted (Char.toNat_inj.1 (le_antisymm below above))
    have unreached := not_covers_shift targets_apart_places.2 rfl other
    rw [dotted] at unreached
    cases unreached

/-- What a character becomes does not change any more. -/
lemma small_of_mem_lowerIn (mem : d ∈ lowerIn before after c) : Small d := by
  rw [lowerIn] at mem
  split at mem
  · cases List.mem_singleton.1 mem
    split
    · exact small_of_shift (by decide) (by decide) (by decide +kernel)
    · exact small_of_shift (by decide) (by decide) (by decide +kernel)
  · rw [lowerChar] at mem
    split at mem
    · simp only [List.mem_cons, List.not_mem_nil, or_false] at mem
      rcases mem with rfl | rfl
      · exact small_of_shift (by decide) (by decide) (by decide +kernel)
      · exact small_of_shift (by decide) (by decide) (by decide +kernel)
    · next undotted =>
      cases List.mem_singleton.1 mem
      exact small_shift undotted

/-- Every character of a lowercase form is its own. -/
lemma small_of_mem_lower (mem : d ∈ lower cs) : Small d := by
  obtain ⟨c, -, before, after, mem⟩ := exists_of_mem_lower mem
  exact small_of_mem_lowerIn mem

/-- A text of such characters stays as it is. -/
lemma lower_of_small (small : ∀ c ∈ cs, Small c) : lower cs = cs := by
  have parts : List.Forall₂ (fun c part => part = [c]) cs (lowerParts [] cs) :=
    forall₂_lowerParts (fun c mem before after => small c mem before after) []
  rw [lower_eq_flatten]
  generalize lowerParts [] cs = blocks at parts ⊢
  clear small
  induction parts with
  | nil => rfl
  | cons own _ ih => rw [List.flatten_cons, own, ih, List.singleton_append]

/-- A lowercase form is its own lowercase form. -/
theorem lower_lower (cs : List Char) : lower (lower cs) = lower cs :=
  lower_of_small fun _ => small_of_mem_lower

/-! ## What occurs in a lowercase form -/

/-- A text occurs in the parts of another text if each of its characters is a part of its own. -/
lemma prefix_flatten (parts : List.Forall₂ (fun c part => c ∈ u → part = [c]) cs blocks)
    (inside : ∀ c ∈ v, c ∈ u) (occurs : v <+: cs) : v <+: blocks.flatten := by
  induction parts generalizing v with
  | nil => exact (List.prefix_nil.1 occurs) ▸ List.nil_prefix
  | @cons c part cs blocks own _ ih =>
    cases v with
    | nil => exact List.nil_prefix
    | cons d v =>
      obtain ⟨rfl, rest⟩ := List.cons_prefix_cons.1 occurs
      obtain ⟨here, later⟩ := List.forall_mem_cons.1 inside
      rw [List.flatten_cons, own here, List.singleton_append, List.cons_prefix_cons]
      exact ⟨rfl, ih later rest⟩

/-- A text whose characters are left alone occurs in the parts if it occurs in the characters. -/
lemma infix_flatten (parts : List.Forall₂ (fun c part => c ∈ u → part = [c]) cs blocks)
    (occurs : u <:+: cs) : u <:+: blocks.flatten := by
  have all := parts
  induction parts with
  | nil => exact (List.infix_nil.1 occurs) ▸ List.nil_infix
  | cons own others ih =>
    rcases List.infix_cons_iff.1 occurs with first | later
    · exact (prefix_flatten all (fun _ mem => mem) first).isInfix
    · rw [List.flatten_cons]
      exact (ih later others).trans (List.suffix_append _ _).isInfix

/-- A text that begins in the parts begins there itself, if no part but its own holds one of its
characters. -/
lemma prefix_of_flatten
    (parts : List.Forall₂ (fun c part => part ≠ [] ∧ ∀ d ∈ part, d ∈ u → part = [c]) cs blocks)
    (inside : ∀ c ∈ v, c ∈ u) (occurs : v <+: blocks.flatten) : v <+: cs := by
  induction parts generalizing v with
  | nil => exact (List.prefix_nil.1 occurs) ▸ List.nil_prefix
  | @cons c part cs blocks own _ ih =>
    cases v with
    | nil => exact List.nil_prefix
    | cons d v =>
      obtain ⟨here, later⟩ := List.forall_mem_cons.1 inside
      obtain ⟨d', part', rfl⟩ := List.exists_cons_of_ne_nil own.1
      obtain ⟨rfl, -⟩ := List.cons_prefix_cons.1 occurs
      cases own.2 d List.mem_cons_self here
      obtain ⟨-, rest⟩ := List.cons_prefix_cons.1 occurs
      exact List.cons_prefix_cons.2 ⟨rfl, ih later rest⟩

/-- A text does not occur in front of its own first character. -/
lemma infix_of_append (apart : ∀ d ∈ v, d ∉ u) (occurs : u <:+: v ++ cs) : u <:+: cs := by
  induction v with
  | nil => exact occurs
  | cons d v ih =>
    obtain ⟨here, later⟩ := List.forall_mem_cons.1 apart
    rcases List.infix_cons_iff.1 occurs with first | occurs
    · cases u with
      | nil => exact List.nil_infix
      | cons d' u =>
        obtain ⟨rfl, -⟩ := List.cons_prefix_cons.1 first
        exact absurd List.mem_cons_self here
    · exact ih later occurs

/-- A text that occurs in the parts occurs in the characters, if only they become what it consists
of. -/
lemma infix_of_flatten
    (parts : List.Forall₂ (fun c part => part ≠ [] ∧ ∀ d ∈ part, d ∈ u → part = [c]) cs blocks)
    (occurs : u <:+: blocks.flatten) : u <:+: cs := by
  have all := parts
  induction parts with
  | nil => exact (List.infix_nil.1 occurs) ▸ List.nil_infix
  | @cons c part cs blocks own others ih =>
    by_cases held : ∃ d ∈ part, d ∈ u
    · obtain ⟨d, mem, sought⟩ := held
      cases own.2 d mem sought
      rw [List.flatten_cons, List.singleton_append] at occurs
      rcases List.infix_cons_iff.1 occurs with first | later
      · exact (prefix_of_flatten all (fun _ mem => mem) first).isInfix
      · exact (ih later others).trans (List.suffix_cons _ _).isInfix
    · have apart : ∀ d ∈ part, d ∉ u := fun d mem sought => held ⟨d, mem, sought⟩
      exact (ih (infix_of_append apart occurs) others).trans (List.suffix_cons _ _).isInfix

/-- What occurs in a text without being a letter or a capital occurs in the lowercase form. -/
theorem occurs_lower (unlettered : ∀ c ∈ u, isAlnum c = false)
    (small : ∀ c ∈ u, isCircled c = false) (occurs : u <:+: cs) : u <:+: lower cs := by
  rw [lower_eq_flatten]
  refine infix_flatten (forall₂_lowerParts (fun c _ before after sought => ?_) []) occurs
  rw [lowerIn_unlettered (unlettered c sought),
    shift_eq_self (unlettered c sought) (small c sought)]

/-- What occurs in the lowercase form of a text without being a letter occurs in the text, if it
does not come from a capital in a circle or from the mark behind a dotted capital. -/
theorem occurs_of_lower (unlettered : ∀ c ∈ u, isAlnum c = false)
    (own : ∀ c ∈ cs, c = 'İ' ∨ isCircled c = true → ∀ d ∈ lowerChar c, d ∉ u)
    (occurs : u <:+: lower cs) : u <:+: cs := by
  rw [lower_eq_flatten] at occurs
  refine infix_of_flatten
    (forall₂_lowerParts (fun c mem before after => ⟨lowerIn_ne_nil, ?_⟩) []) occurs
  intro d held sought
  by_cases dotted : c = 'İ'
  · have form : lowerIn before after c = lowerChar c := by
      rw [lowerIn, if_neg (by rw [dotted]; decide)]
    rw [form] at held
    exact absurd sought (own c mem (.inl dotted) d held)
  cases alnum : isAlnum c with
  | true =>
    have letter := isAlnum_of_mem_lowerIn alnum dotted held
    rw [unlettered d sought] at letter
    cases letter
  | false =>
    have form : lowerIn before after c = [shift lowerRuns c] := lowerIn_unlettered alnum
    cases circled : isCircled c with
    | true =>
      have alone : lowerChar c = [shift lowerRuns c] := by rw [lowerChar, if_neg dotted]
      rw [form, ← alone] at held
      exact absurd sought (own c mem (.inr circled) d held)
    | false => rw [form, shift_eq_self alnum circled]

end BookCatalog.Text
