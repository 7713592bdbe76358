import BookCatalog.Calendar.Iso
import BookCatalog.Proofs.Text.Fields
import BookCatalog.Proofs.Text.Span
import BookCatalog.Text.Number

/-!
# Numbers in text

A text of digits of any script is read as the number that they make up (`readIntOrZero_of_values`).

`Writes cs n` says that a text is a number in decimal digits, perhaps with zeros in front. The
digits that a number is written with are such a text (`writes_toDigits`), also when they are filled
up to a width (`writes_padded`), and what is written so is read back (`readIntOrZero_decimal`).
-/

namespace BookCatalog.Text

/-- An integer in decimal digits, with a minus sign in front if it is negative. -/
def decimal (n : Int) : List Char :=
  if n < 0 then '-' :: Nat.toDigits 10 n.natAbs else Nat.toDigits 10 n.natAbs

/-- A text is a number in decimal digits. -/
inductive Writes : List Char → Nat → Prop where
  | nil : Writes [] 0
  | digit {cs n d} : Writes cs n → d < 10 → Writes (cs ++ [d.digitChar]) (10 * n + d)

variable {cs : List Char} {c : Char} {n d width : Nat} {ds : List Nat}

/-! ## Digits -/

/-- No digit of any script is a blank. -/
lemma digits_apart_blanks : Apart (digitZeros.map fun first => (first, first + 9)) blankSpans := by
  decide +kernel

/-- A digit is no blank. -/
lemma isBlank_of_digit (digit : digitValue? c = some d) : isBlank c = false := by
  obtain ⟨first, found, -⟩ := Option.map_eq_some_iff.1 digit
  have within := List.find?_some found
  rw [Bool.and_eq_true, decide_eq_true_eq, decide_eq_true_eq] at within
  rw [isBlank, ← Bool.not_eq_true]
  intro blank
  obtain ⟨span, mem, above, below⟩ := exists_span blank
  have apart :=
    digits_apart_blanks _ (List.mem_map_of_mem (List.mem_of_find?_eq_some found)) span mem
  dsimp only at apart
  omega

/-- The values of digits are read one by one. -/
lemma forall₂_of_values (read : cs.mapM digitValue? = some ds) :
    List.Forall₂ (fun c d => digitValue? c = some d) cs ds := by
  induction cs generalizing ds with
  | nil =>
    cases read
    exact .nil
  | cons c rest ih =>
    rw [List.mapM_cons] at read
    obtain ⟨d, first, read⟩ := Option.bind_eq_some_iff.1 read
    obtain ⟨more, others, read⟩ := Option.bind_eq_some_iff.1 read
    cases read
    exact .cons first (ih others)

/-- There are no blanks among digits. -/
lemma isBlank_of_mem (read : cs.mapM digitValue? = some ds) (mem : c ∈ cs) : isBlank c = false := by
  have values := forall₂_of_values read
  clear read
  induction values with
  | nil => cases mem
  | cons own _ ih =>
    rcases List.mem_cons.1 mem with rfl | later
    · exact isBlank_of_digit own
    · exact ih later

/-- There are no blanks around digits. -/
lemma trim_of_values (read : cs.mapM digitValue? = some ds) : Trim cs where
  head _ first := isBlank_of_mem read (List.mem_of_mem_head? first)
  last _ last := isBlank_of_mem read (List.mem_of_mem_getLast? last)

/-! ## Reading digits -/

/-- An underscore is no digit. -/
lemma digitValue?_underscore : digitValue? '_' = none := by decide

/-- A text of digits has no underscores between them. -/
lemma digitRun?_of_values (ne : cs ≠ []) (read : cs.mapM digitValue? = some ds) :
    digitRun? cs = some ds := by
  have values := forall₂_of_values read
  clear read
  induction values with
  | nil => exact absurd rfl ne
  | @cons c d rest ds first others ih =>
    cases others with
    | nil =>
      rw [digitRun?, first]
      rfl
    | @cons c' d' rest ds second others =>
      have follows := ih (List.cons_ne_nil _ _)
      have digit : c' ≠ '_' := by
        rintro rfl
        rw [digitValue?_underscore] at second
        cases second
      rw [digitRun?, first, follows]
      · rfl
      · exact List.cons_ne_nil _ _
      · exact fun _ e => digit (List.cons.inj e).1

/-- Digits are read as the number that they make up, unless there are too many. -/
lemma readNat?_of_values (ne : cs ≠ []) (read : cs.mapM digitValue? = some ds)
    (short : cs.length ≤ maxDigits) :
    readNat? cs = some (ofDigits ds) := by
  have brief : ¬ 2 * maxDigits ≤ cs.length := by
    rw [maxDigits] at short ⊢
    omega
  rw [(forall₂_of_values read).length_eq] at short
  rw [readNat?, if_neg brief, digitRun?_of_values ne read]
  exact if_pos short

/-- A text of digits of any script, without a sign and with nothing between them, is the number that
they make up. -/
theorem readIntOrZero_of_values (ne : cs ≠ []) (read : cs.mapM digitValue? = some ds)
    (short : cs.length ≤ maxDigits) : readIntOrZero cs = ofDigits ds := by
  have number := readNat?_of_values ne read short
  have unsigned : ∀ sign ∈ ['-', '+'], ∀ rest, cs ≠ sign :: rest := by
    rintro sign listed rest rfl
    cases forall₂_of_values read with
    | cons own =>
      simp only [List.mem_cons, List.not_mem_nil, or_false] at listed
      rcases listed with rfl | rfl <;> revert own <;> exact nofun
  rw [readIntOrZero, readInt?, strip_of_trim (trim_of_values read)]
  split
  · exact absurd rfl (unsigned '-' (by simp) _)
  · exact absurd rfl (unsigned '+' (by simp) _)
  · rw [number]
    rfl

/-! ## Written numbers -/

/-- A decimal digit has its own value. -/
lemma digitValue?_digitChar : ∀ d < 10, digitValue? d.digitChar = some d := by decide

/-- The values of the digits that a number is written with. -/
lemma Writes.values (writes : Writes cs n) :
    ∃ ds, cs.mapM digitValue? = some ds ∧ ofDigits ds = n := by
  induction writes with
  | nil => exact ⟨[], rfl, rfl⟩
  | @digit cs n d _ small ih =>
    obtain ⟨ds, read, value⟩ := ih
    refine ⟨ds ++ [d], ?_, ?_⟩
    · simp [read, digitValue?_digitChar d small]
    · rw [ofDigits, List.foldl_append, ← ofDigits, value]
      rfl

/-- The digits of a number write it. -/
lemma writes_toDigits (n : Nat) : Writes (Nat.toDigits 10 n) n := by
  induction n using Nat.strongRecOn with
  | _ n ih =>
    by_cases small : n < 10
    · rw [Nat.toDigits_of_lt_base small]
      have one := Writes.nil.digit small
      rwa [Nat.mul_zero, Nat.zero_add] at one
    · have shape := Nat.toDigits_of_base_le (b := 10) (by decide) (Nat.le_of_not_lt small)
      have front := ih (n / 10) (by omega)
      have whole := front.digit (Nat.mod_lt n (by decide))
      rw [shape]
      rwa [Nat.div_add_mod] at whole

/-- Zeros in front do not matter. -/
lemma Writes.zeros_append (writes : Writes cs n) (k : Nat) :
    Writes (List.replicate k '0' ++ cs) n := by
  induction writes with
  | nil =>
    rw [List.append_nil]
    induction k with
    | zero => exact .nil
    | succ k ih =>
      rw [List.replicate_succ']
      exact ih.digit (d := 0) (by decide)
  | digit _ small ih =>
    rw [← List.append_assoc]
    exact ih.digit small

/-- Digits that are filled up to a width write the number. -/
lemma writes_padded (width n : Nat) : Writes (padded width n) n :=
  (writes_toDigits n).zeros_append _

/-! ## Reading what is written -/

/-- What is written is read back. -/
lemma Writes.readNat?_eq (writes : Writes cs n) (ne : cs ≠ []) (short : cs.length ≤ maxDigits) :
    readNat? cs = some n := by
  obtain ⟨ds, read, rfl⟩ := writes.values
  exact readNat?_of_values ne read short

/-- So it is as an integer. -/
lemma Writes.readIntOrZero_eq (writes : Writes cs n) (ne : cs ≠ [])
    (short : cs.length ≤ maxDigits) :
    readIntOrZero cs = n := by
  obtain ⟨ds, read, rfl⟩ := writes.values
  exact readIntOrZero_of_values ne read short

/-- There are no blanks around a number. -/
lemma trim_decimal (n : Int) : Trim (decimal n) := by
  obtain ⟨ds, read, -⟩ := (writes_toDigits n.natAbs).values
  rw [decimal]
  split
  · have sign : isBlank '-' = false := by decide
    refine ⟨?_, fun c last => ?_⟩
    · rintro c ⟨⟩
      exact sign
    · rcases List.mem_cons.1 (List.mem_of_mem_getLast? last) with rfl | mem
      · exact sign
      · exact isBlank_of_mem read mem
  · exact trim_of_values read

/-- An integer of no more digits than are read is read back. -/
theorem readIntOrZero_decimal {n : Int} (short : (Nat.toDigits 10 n.natAbs).length ≤ maxDigits) :
    readIntOrZero (decimal n) = n := by
  have writes := writes_toDigits n.natAbs
  have ne : Nat.toDigits 10 n.natAbs ≠ [] := Nat.toDigits_ne_nil
  by_cases negative : n < 0
  · have whole : decimal n = '-' :: Nat.toDigits 10 n.natAbs := if_pos negative
    have trim := trim_decimal n
    rw [whole] at trim ⊢
    rw [readIntOrZero, readInt?, strip_of_trim trim]
    show ((readNat? (Nat.toDigits 10 n.natAbs)).map fun k => -(k : Int)).getD 0 = n
    rw [writes.readNat?_eq ne short]
    show -(n.natAbs : Int) = n
    omega
  · have whole : decimal n = Nat.toDigits 10 n.natAbs := if_neg negative
    rw [whole, writes.readIntOrZero_eq ne short]
    omega

/-- No character of a number is anything else than a digit or a sign. -/
lemma mem_decimal {n : Int} (mem : c ∈ decimal n) : c = '-' ∨ c.isDigit = true := by
  have digits : c ∈ Nat.toDigits 10 n.natAbs → c.isDigit = true :=
    Nat.isDigit_of_mem_toDigits (by decide) (by decide)
  rw [decimal] at mem
  split at mem
  · exact (List.mem_cons.1 mem).imp_right digits
  · exact .inr (digits mem)

end BookCatalog.Text
