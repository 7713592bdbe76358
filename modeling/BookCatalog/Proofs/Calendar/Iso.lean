import BookCatalog.Calendar.Iso
import Mathlib

/-!
# Reading a written date back

A date and time that was written in full is read back as it was, with one exception: an offset of
less than a second is read as no offset at all (`DateTime.ofIso?_iso`). Each reader is shown to take
off the front of a text what the writer has put there:

* `takeNumber_padded`: a number filled to a width.
* `Date.ofIso?_isoChars`, `readClock_clockChars`: a day, and a time with its fraction.
* `readOffset_isoChars`, `readTime_isoChars`: an offset, and a time with its offset.
-/

namespace BookCatalog

variable {width n : Nat} {rest : List Char}

/-! ## Numbers -/

/-- A number with one more place: the last digit comes last. -/
lemma padded_succ (pos : 0 < width) (n : Nat) :
    padded (width + 1) n = padded width (n / 10) ++ [(n % 10).digitChar] := by
  unfold padded
  by_cases small : n < 10
  · have zero : n / 10 = 0 := Nat.div_eq_of_lt small
    rw [zero, Nat.mod_eq_of_lt small, Nat.toDigits_of_lt_base small, Nat.toDigits_zero]
    simp only [List.length_singleton, Nat.add_sub_cancel]
    rw [← List.replicate_succ', Nat.sub_add_cancel pos]
  · -- both sides are filled with the same zeros
    have shape := Nat.toDigits_of_base_le (b := 10) (by decide) (Nat.le_of_not_lt small)
    simp only [shape, List.length_append, List.length_singleton, Nat.add_sub_add_right,
      List.append_assoc]

/-- One digit is written as itself. -/
lemma padded_one (small : n < 10) : padded 1 n = [n.digitChar] := by
  simp [padded, Nat.toDigits_of_lt_base small]

/-- A digit is read back. -/
lemma asciiDigit?_digitChar (small : n < 10) : asciiDigit? n.digitChar = some n := by
  revert n
  decide

/-- A character that a number is written with. -/
lemma isDigit_of_mem_padded {c : Char} (mem : c ∈ padded width n) : c.isDigit = true := by
  rw [padded] at mem
  cases List.mem_append.1 mem with
  | inl filling => rw [(List.mem_replicate.1 filling).2]; rfl
  | inr digits => exact Nat.isDigit_of_mem_toDigits (by decide) (by decide) digits

/-- A number that fits is written in the given width. -/
lemma length_padded (pos : 0 < width) (fits : n < 10 ^ width) :
    (padded width n).length = width := by
  have short := Nat.toDigits_length 10 n width pos fits
  rw [padded, List.length_append, List.length_replicate]
  omega

/-- Digits are read one after the other. -/
lemma takeNumber_go_add (a b acc : Nat) (cs : List Char) :
    takeNumber.go (a + b) acc cs =
      (takeNumber.go a acc cs).bind fun (n, rest) => takeNumber.go b n rest := by
  induction a generalizing acc cs with
  | zero => rw [Nat.zero_add]; rfl
  | succ a ih =>
    rw [Nat.succ_add]
    cases cs with
    | nil => rfl
    | cons c cs =>
      simp only [takeNumber.go]
      cases asciiDigit? c with
      | none => rfl
      | some d => exact ih _ cs

/-- The digits of a number are read behind those that were read before. -/
lemma takeNumber_go_padded (pos : 0 < width) (fits : n < 10 ^ width) (acc : Nat)
    (rest : List Char) :
    takeNumber.go width acc (padded width n ++ rest) = some (10 ^ width * acc + n, rest) := by
  induction width, pos using Nat.le_induction generalizing n rest with
  | base =>
    have small : n < 10 := by simpa using fits
    rw [padded_one small]
    simp [takeNumber.go, asciiDigit?_digitChar small]
  | succ width pos ih =>
    have front : n / 10 < 10 ^ width := by
      rw [Nat.div_lt_iff_lt_mul (by decide), ← Nat.pow_succ]
      exact fits
    have last : n % 10 < 10 := Nat.mod_lt n (by decide)
    rw [padded_succ pos, List.append_assoc, takeNumber_go_add, ih front]
    simp only [Option.bind_some, List.singleton_append, takeNumber.go, asciiDigit?_digitChar last]
    congr 2
    rw [Nat.pow_succ]
    have split := Nat.div_add_mod n 10
    ring_nf
    omega

/-- A number is read back from the places it was written to. -/
lemma takeNumber_padded (pos : 0 < width) (fits : n < 10 ^ width) (rest : List Char) :
    takeNumber width (padded width n ++ rest) = some (n, rest) := by
  rw [takeNumber, takeNumber_go_padded pos fits, Nat.mul_zero, Nat.zero_add]

/-- A number that ends the text is read back. -/
lemma takeNumber_padded_nil (pos : 0 < width) (fits : n < 10 ^ width) :
    takeNumber width (padded width n) = some (n, []) := by
  have read := takeNumber_padded pos fits []
  rwa [List.append_nil] at read

/-- A number of two places begins with a digit. -/
lemma padded_two (n : Nat) (fits : n < 100) :
    ∃ c d, padded 2 n = [c, d] ∧ c.isDigit = true := by
  have length : (padded 2 n).length = 2 := length_padded (by decide) fits
  obtain ⟨c, d, eq⟩ := List.length_eq_two.1 length
  have mem : c ∈ padded 2 n := by simp [eq]
  exact ⟨c, d, eq, isDigit_of_mem_padded mem⟩

/-! ## Days -/

/-- The months of a day are twelve, and no month has more than 31 days. -/
lemma Date.ranges (d : Date) : (1 ≤ d.month ∧ d.month ≤ 12) ∧ 1 ≤ d.day ∧ d.day ≤ 31 := by
  have named := d.exists_day
  simp only [isDay, Bool.and_eq_true, decide_eq_true_eq] at named
  have days : daysInMonth d.year d.month ≤ 31 := by
    rw [daysInMonth]
    split
    case isTrue => split <;> decide
    case isFalse => split_ifs <;> decide
  have month : 1 ≤ d.month ∧ d.month ≤ 12 := by
    by_contra outside
    have none : daysInMonth d.year d.month = 0 := by
      rw [daysInMonth]
      split_ifs <;> omega
    omega
  omega

/-- The numbers of a day have no more places than they are written with. -/
lemma Date.bounds (d : Date) : d.year < 10000 ∧ d.month < 100 ∧ d.day < 100 := by
  have named := d.exists_day
  simp only [isDay, Bool.and_eq_true, decide_eq_true_eq] at named
  have ranges := d.ranges
  omega

/-- A date is read back from its own text. -/
lemma Date.ofIso?_isoChars (d : Date) : Date.ofIso? d.isoChars = some d := by
  obtain ⟨year, month, day⟩ := d.bounds
  -- a week date would have a letter where the month begins
  obtain ⟨c, _, eq, digit⟩ := padded_two d.month month
  have notWeek : c ≠ 'W' := by rintro rfl; cases digit
  simp only [Date.ofIso?, Date.isoChars, List.append_assoc, List.cons_append]
  rw [takeNumber_padded (by decide) year]
  simp only [Option.bind_eq_bind, Option.bind_some, List.head?_cons, BEq.rfl, if_true,
    List.drop_one, List.tail_cons]
  split
  case h_1 e =>
    rw [eq] at e
    cases e
    exact absurd rfl notWeek
  case h_2 =>
    rw [takeNumber_padded (by decide) month]
    simp only [Option.bind_some, dropHyphen, if_true]
    rw [takeNumber_padded_nil (by decide) day]
    simp [Date.make?, d.exists_day]

/-- A date is written in ten characters. -/
lemma Date.length_isoChars (d : Date) : d.isoChars.length = 10 := by
  obtain ⟨year, month, day⟩ := d.bounds
  have length4 : (padded 4 d.year).length = 4 := length_padded (by decide) year
  have length2 : ∀ {n}, n < 100 → (padded 2 n).length = 2 := fun fits =>
    length_padded (by decide) fits
  simp [Date.isoChars, length4, length2 month, length2 day]

/-- A written day is found at the front of a text. -/
lemma dayLength_isoChars (d : Date) (rest : List Char) : dayLength (d.isoChars ++ rest) = 10 := by
  obtain ⟨year, month, _⟩ := d.bounds
  obtain ⟨c, c', eq, digit⟩ := padded_two d.month month
  have notWeek : c ≠ 'W' := by rintro rfl; cases digit
  have long : (d.isoChars ++ rest).length ≠ 7 := by
    rw [List.length_append, d.length_isoChars]
    omega
  have behind : (d.isoChars ++ rest).drop 4 =
      '-' :: c :: c' :: '-' :: (padded 2 d.day ++ rest) := by
    simp only [Date.isoChars, eq, List.append_assoc]
    rw [List.drop_left' (length_padded (by decide) year)]
    rfl
  rw [dayLength, if_neg long, behind]
  have second : ∀ {w cs}, '-' :: c :: c' :: '-' :: (padded 2 d.day ++ rest) = '-' :: w :: cs →
      c = w := fun e => (List.cons.inj (List.cons.inj e).2).1
  split
  case h_1 e => exact absurd (second e) notWeek
  case h_2 e => exact absurd (second e) notWeek
  case h_3 e => exact absurd (second e) notWeek
  case h_4 => rfl
  case h_5 e => cases e
  case h_6 notDash _ => exact absurd rfl (notDash _)

/-! ## Times -/

/-- Behind a field with a colon and more comes the next field. -/
lemma afterField_colon {more : Bool} (some : rest ≠ []) :
    afterField true more (':' :: rest) = .some (.field rest) := by
  cases rest with
  | nil => exact absurd rfl some
  | cons c rest => rfl

/-- Seconds end a clock or have a fraction behind them, and only a fraction of zero is left out. -/
lemma afterField_fractionChars (micro : Nat) (more : Bool) :
    afterField true more (fractionChars micro) =
      some (if micro = 0 then .finished more else .fraction (padded 6 micro)) := by
  rw [fractionChars]
  split
  case isTrue => rfl
  case isFalse =>
    have some : padded 6 micro ≠ [] := by simp [padded, Nat.toDigits_ne_nil]
    cases shape : padded 6 micro with
    | nil => exact absurd shape some
    | cons c rest => rfl

/-- A fraction of six digits is read back. -/
lemma readFraction_padded {micro : Nat} (fits : micro < 1000000) (more : Bool) :
    readFraction (padded 6 micro) more = some (micro, more) := by
  have length : (padded 6 micro).length = 6 := length_padded (by decide) fits
  simp only [readFraction, length, Nat.min_self]
  rw [takeNumber_padded_nil (by decide) fits]
  simp

/-- The fields of a time that is written in full are read back. -/
lemma readClock_clockChars {hour minute second micro : Nat} (fitsHour : hour < 100)
    (fitsMinute : minute < 100) (fitsSecond : second < 100) (fitsMicro : micro < 1000000)
    (more : Bool) :
    readClock (clockChars hour minute second ++ fractionChars micro) more =
      some ⟨hour, minute, second, micro, more⟩ := by
  simp only [readClock, clockChars, List.append_assoc, List.cons_append]
  rw [takeNumber_padded (by decide) fitsHour]
  simp only [Option.bind_eq_bind, Option.bind_some, List.head?_cons, BEq.rfl]
  rw [afterField_colon (by simp [padded])]
  simp only [Option.bind_some]
  rw [takeNumber_padded (by decide) fitsMinute]
  simp only [Option.bind_some]
  rw [afterField_colon (by simp [padded])]
  simp only [Option.bind_some]
  rw [takeNumber_padded (by decide) fitsSecond]
  simp only [Option.bind_some]
  rw [afterField_fractionChars]
  simp only [Option.bind_some]
  by_cases zero : micro = 0
  · subst zero
    rfl
  · rw [if_neg zero]
    simp only
    rw [readFraction_padded fitsMicro]
    rfl

/-- A clock of hours and minutes is read back. -/
lemma readClock_minutes {hour minute : Nat} (fitsHour : hour < 100) (fitsMinute : minute < 100) :
    readClock (padded 2 hour ++ ':' :: padded 2 minute) false =
      some ⟨hour, minute, 0, 0, false⟩ := by
  simp only [readClock]
  rw [takeNumber_padded (by decide) fitsHour]
  simp only [Option.bind_eq_bind, Option.bind_some, List.head?_cons, BEq.rfl]
  rw [afterField_colon (by simp [padded])]
  simp only [Option.bind_some]
  rw [takeNumber_padded_nil (by decide) fitsMinute]
  rfl

/-! ## Offsets -/

/-- The offset that is read where another one was written: one of less than a second is lost. -/
def Offset.readBack (o : Offset) : Offset :=
  if o.micros < 1000000 then ⟨false, 0, by decide, nofun⟩ else o

/-- The date and time that is read where another one was written. -/
def DateTime.readBack (dt : DateTime) : DateTime :=
  { dt with offset := dt.offset.map Offset.readBack }

/-- What is read is what was written, unless the offset is not zero and less than a second. -/
lemma DateTime.readBack_eq_self {dt : DateTime} :
    dt.readBack = dt ↔ ∀ o, dt.offset = some o → o.micros = 0 ∨ 1000000 ≤ o.micros := by
  obtain ⟨date, clock, offset⟩ := dt
  cases offset with
  | none => simp [readBack]
  | some o =>
    obtain ⟨negative, micros, within⟩ := o
    simp only [readBack, Offset.readBack, Option.map_some, DateTime.mk.injEq, true_and,
      Option.some.injEq, forall_eq']
    split
    case isTrue small =>
      rw [Offset.mk.injEq]
      constructor
      · rintro ⟨-, zero⟩
        exact .inl zero.symm
      · rintro (zero | large)
        · refine ⟨?_, zero.symm⟩
          cases negative with
          | false => rfl
          | true => exact absurd (within.2 rfl) (by omega)
        · omega
    case isFalse large => exact ⟨fun _ => .inr (by omega), fun _ => rfl⟩

/-- An offset that is not zero is made of its own sign and length. -/
lemma Offset.make?_self (o : Offset) (pos : 0 < o.micros) :
    Offset.make? o.negative o.micros = some o := by
  rw [Offset.make?, dif_pos o.within_day.1, dif_pos pos]

/-- The hours, minutes and seconds of an offset, and what is left of it. -/
lemma readClock_offset (o : Offset) :
    ∃ body, o.isoChars = (if o.negative then '-' else '+') :: body ∧
      readClock body false =
        some ⟨o.micros / 1000000 / 3600, o.micros / 1000000 / 60 % 60, o.micros / 1000000 % 60,
          o.micros % 1000000, false⟩ := by
  have within : o.micros < 86400000000 := o.within_day.1
  refine ⟨_, rfl, ?_⟩
  split
  case isTrue short =>
    rw [readClock_minutes (by omega) (by omega), short.1, short.2]
  case isFalse =>
    rw [readClock_clockChars (by omega) (by omega) (by omega) (by omega)]

/-- An offset is read back from its own text, but a part of a second alone is lost. -/
lemma readOffset_isoChars (o : Offset) :
    ∃ body, o.isoChars = (if o.negative then '-' else '+') :: body ∧
      readOffset o.negative body = some o.readBack := by
  obtain ⟨body, eq, read⟩ := readClock_offset o
  refine ⟨body, eq, ?_⟩
  -- the reader puts the seconds together again before it looks at the fraction
  have whole : o.micros / 1000000 / 3600 * 3600 + o.micros / 1000000 / 60 % 60 * 60 +
      o.micros / 1000000 % 60 = o.micros / 1000000 := by omega
  simp only [readOffset, read, Option.bind_eq_bind, Option.bind_some, whole, Offset.readBack]
  by_cases small : o.micros < 1000000
  · have none : o.micros / 1000000 = 0 := Nat.div_eq_of_lt small
    rw [if_pos none, if_pos small]
    rfl
  · have some : o.micros / 1000000 ≠ 0 := by omega
    have all : o.micros / 1000000 * 1000000 + o.micros % 1000000 = o.micros :=
      Nat.div_add_mod' _ _
    rw [if_neg some, if_neg small, all]
    exact o.make?_self (by omega)

/-! ## Dates and times -/

/-- Nothing in a written time of day looks like the beginning of an offset. -/
lemma startsOffset_of_mem_isoChars {t : Clock} {c : Char} (mem : c ∈ t.isoChars) :
    startsOffset c = false := by
  have kind : c.isDigit = true ∨ c = ':' ∨ c = '.' := by
    simp only [Clock.isoChars, clockChars, List.mem_append, List.mem_cons] at mem
    rcases mem with ((hour | colon | minute) | colon | second) | fraction
    · exact .inl (isDigit_of_mem_padded hour)
    · exact .inr (.inl colon)
    · exact .inl (isDigit_of_mem_padded minute)
    · exact .inr (.inl colon)
    · exact .inl (isDigit_of_mem_padded second)
    · unfold fractionChars at fraction
      split at fraction
      case isTrue => cases fraction
      case isFalse =>
        cases List.mem_cons.1 fraction with
        | inl dot => exact .inr (.inr dot)
        | inr micro => exact .inl (isDigit_of_mem_padded micro)
  rcases kind with digit | rfl | rfl
  · simp only [startsOffset, Bool.or_eq_false_iff, beq_eq_false_iff_ne]
    refine ⟨⟨?_, ?_⟩, ?_⟩ <;> (rintro rfl; cases digit)
  · rfl
  · rfl

/-- A written time of day ends where an offset begins. -/
lemma span_isoChars (t : Clock) (back : List Char)
    (starts : ∀ c ∈ back.head?, startsOffset c = true) :
    (t.isoChars ++ back).takeWhile (fun c => !startsOffset c) = t.isoChars ∧
      (t.isoChars ++ back).dropWhile (fun c => !startsOffset c) = back := by
  have front : ∀ c ∈ t.isoChars, (!startsOffset c) = true := by
    intro c mem
    rw [startsOffset_of_mem_isoChars mem]
    rfl
  have stop : back.takeWhile (fun c => !startsOffset c) = [] ∧
      back.dropWhile (fun c => !startsOffset c) = back := by
    cases back with
    | nil => exact ⟨rfl, rfl⟩
    | cons c back =>
      have start := starts c rfl
      simp [start]
  rw [List.takeWhile_append_of_pos front, List.dropWhile_append_of_pos front, stop.1, stop.2,
    List.append_nil]
  exact ⟨rfl, rfl⟩

/-- A clock is read back from its own text. -/
lemma readClock_isoChars (t : Clock) (more : Bool) :
    readClock t.isoChars more = some ⟨t.hour, t.minute, t.second, t.micro, more⟩ := by
  obtain ⟨⟨hour, minute⟩, second, micro⟩ := t.exists_time
  exact readClock_clockChars (by omega) (by omega) (by omega) micro more

/-- A clock is made of its own fields. -/
lemma Clock.make?_self (t : Clock) : Clock.make? t.hour t.minute t.second t.micro = some t := by
  rw [Clock.make?, dif_pos t.exists_time]

/-- A time of day is read back, and with it the offset behind it. -/
lemma readTime_isoChars (t : Clock) (offset : Option Offset) :
    readTime (t.isoChars ++ offset.elim [] Offset.isoChars) =
      some (t, offset.map Offset.readBack) := by
  cases offset with
  | none =>
    obtain ⟨front, back⟩ := span_isoChars t [] (by simp)
    simp only [readTime, Option.elim_none, front, back, readClock_isoChars, Option.bind_eq_bind,
      Option.bind_some, Clock.make?_self]
    rfl
  | some o =>
    obtain ⟨body, eq, read⟩ := readOffset_isoChars o
    cases sign : o.negative with
    | false =>
      simp only [sign, Bool.false_eq_true, if_false] at eq read
      obtain ⟨front, back⟩ := span_isoChars t ('+' :: body) (by simp [startsOffset])
      simp only [readTime, Option.elim_some, eq, front, back, readClock_isoChars,
        Option.bind_eq_bind, Option.bind_some, Clock.make?_self]
      exact congrArg (Option.map fun o => (t, some o)) read
    | true =>
      simp only [sign, if_true] at eq read
      obtain ⟨front, back⟩ := span_isoChars t ('-' :: body) (by simp [startsOffset])
      simp only [readTime, Option.elim_some, eq, front, back, readClock_isoChars,
        Option.bind_eq_bind, Option.bind_some, Clock.make?_self]
      exact congrArg (Option.map fun o => (t, some o)) read

/-- A date and time is read back as it was written, but for an offset of less than a second. -/
theorem DateTime.ofIso?_iso (dt : DateTime) : DateTime.ofIso? dt.iso = some dt.readBack := by
  have chars : dt.iso.toList =
      dt.date.isoChars ++ 'T' :: (dt.clock.isoChars ++ dt.offset.elim [] Offset.isoChars) := by
    rw [iso, String.toList_ofList, isoChars]
    cases dt.offset <;> simp
  have long : ¬(dt.iso.toList).length < 7 := by
    rw [chars, List.length_append, dt.date.length_isoChars]
    omega
  rw [ofIso?, ofIsoChars?, if_neg long, chars, dayLength_isoChars,
    List.take_left' dt.date.length_isoChars, List.drop_left' dt.date.length_isoChars,
    Date.ofIso?_isoChars]
  simp only [Option.bind_eq_bind, Option.bind_some, readTime_isoChars]
  rfl

end BookCatalog
