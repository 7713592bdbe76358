import BookCatalog.Calendar

/-!
# The written form of dates and times

`DateTime.iso` writes `2020-01-15T10:20:30.000500+05:30`; the fraction is left out when it is zero,
the offset when it is unknown. `DateTime.ofIso?` reads that form and its relatives: the basic form
without separators, week dates, shortened times, a comma before the fraction, `Z` for universal
time, and any character between day and time.
-/

namespace BookCatalog

/-- A number in decimal digits, filled with zeros to a width. -/
def padded (width n : Nat) : List Char :=
  let digits := Nat.toDigits 10 n
  List.replicate (width - digits.length) '0' ++ digits

/-- A day as `YYYY-MM-DD`. -/
def Date.isoChars (d : Date) : List Char :=
  padded 4 d.year ++ '-' :: padded 2 d.month ++ '-' :: padded 2 d.day

/-- A day as `YYYY-MM-DD`. -/
def Date.iso (d : Date) : String :=
  String.ofList d.isoChars

/-- Hours, minutes and seconds with colons. -/
def clockChars (hour minute second : Nat) : List Char :=
  padded 2 hour ++ ':' :: padded 2 minute ++ ':' :: padded 2 second

/-- A fraction of a second, nothing if it is zero. -/
def fractionChars (micro : Nat) : List Char :=
  if micro = 0 then [] else '.' :: padded 6 micro

/-- A time of day, its fraction only when it is not zero. -/
def Clock.isoChars (t : Clock) : List Char :=
  clockChars t.hour t.minute t.second ++ fractionChars t.micro

/-- An offset as a sign, hours and minutes, with seconds and a fraction only when they are not
zero. -/
def Offset.isoChars (o : Offset) : List Char :=
  let micro := o.micros % 1000000
  let seconds := o.micros / 1000000
  let hours := seconds / 3600
  let minutes := seconds / 60 % 60
  let second := seconds % 60
  (if o.negative then '-' else '+') ::
    (if micro = 0 ∧ second = 0 then padded 2 hours ++ ':' :: padded 2 minutes
    else clockChars hours minutes second ++ fractionChars micro)

/-- A day and time in full. -/
def DateTime.isoChars (dt : DateTime) : List Char :=
  dt.date.isoChars ++ 'T' :: dt.clock.isoChars ++
    match dt.offset with
    | some o => o.isoChars
    | none => []

/-- A day and time in full. -/
def DateTime.iso (dt : DateTime) : String :=
  String.ofList dt.isoChars

/-- The value of an ASCII digit. -/
def asciiDigit? (c : Char) : Option Nat :=
  if '0' ≤ c ∧ c ≤ '9' then some (c.toNat - '0'.toNat) else none

/-- The number in the first `count` characters, which must be ASCII digits, and what follows. -/
def takeNumber : Nat → List Char → Option (Nat × List Char)
  | count, cs => go count 0 cs
where
  go : Nat → Nat → List Char → Option (Nat × List Char)
    | 0, n, cs => some (n, cs)
    | count + 1, n, c :: cs => (asciiDigit? c).bind fun d => go count (10 * n + d) cs
    | _ + 1, _, [] => none

/-- How many ASCII digits a text starts with. -/
def leadingDigits (cs : List Char) : Nat :=
  (cs.takeWhile fun c => (asciiDigit? c).isSome).length

/-- How many characters the day takes at the front of a text. A week date may be followed by a
separator that is itself a hyphen or a digit: `YYYY-Www-` goes on with the time if two digits
follow, and `YYYYWww` has its weekday if that leaves the digits behind it in pairs. -/
def dayLength (cs : List Char) : Nat :=
  if cs.length = 7 then 7
  else match cs.drop 4 with
    | '-' :: 'W' :: _ :: _ :: '-' :: _ :: c :: _ => if (asciiDigit? c).isSome then 8 else 10
    | '-' :: 'W' :: _ :: _ :: '-' :: _ => 10
    | '-' :: 'W' :: _ => 8
    | '-' :: _ => 10
    | 'W' :: _ =>
      let last := 7 + leadingDigits (cs.drop 7)
      if last < 9 then last else if last % 2 = 0 then 7 else 8
    | _ => 8

/-- Drops one hyphen if the form has separators, which it then must find. -/
def dropHyphen (separated : Bool) (cs : List Char) : Option (List Char) :=
  if separated then
    match cs with
    | '-' :: rest => some rest
    | _ => none
  else some cs

/-- Reads a day: `YYYY-MM-DD`, `YYYYMMDD`, `YYYY-Www`, `YYYYWww`, `YYYY-Www-D` or `YYYYWwwD`. -/
def Date.ofIso? (cs : List Char) : Option Date := do
  let (year, rest) ← takeNumber 4 cs
  let separated := rest.head? == some '-'
  let rest := if separated then rest.drop 1 else rest
  match rest with
  | 'W' :: rest =>
    let (week, rest) ← takeNumber 2 rest
    if rest.isEmpty then Date.ofWeek? year week 1
    else
      let rest ← dropHyphen separated rest
      let (day, _) ← takeNumber 1 rest
      Date.ofWeek? year week day
  | rest =>
    let (month, rest) ← takeNumber 2 rest
    let rest ← dropHyphen separated rest
    let (day, _) ← takeNumber 2 rest
    Date.make? year month day

/-- The fields of a time as they are written, before they are checked, and whether something is left
behind them. -/
structure ClockFields where
  hour : Nat
  minute : Nat
  second : Nat
  micro : Nat
  unread : Bool

/-- Reads a fraction of a second to six places; more digits are cut off. `more` says that the text
goes on behind `cs`. -/
def readFraction (cs : List Char) (more : Bool) : Option (Nat × Bool) := do
  let count := min cs.length 6
  let (n, rest) ← takeNumber count cs
  let left := rest.dropWhile fun c => (asciiDigit? c).isSome
  pure (n * Nat.pow 10 (6 - count), more || !left.isEmpty)

/-- What stands behind a two-digit field. -/
inductive AfterField where
  | finished (unread : Bool)
  | field (rest : List Char)
  | fraction (rest : List Char)

/-- Looks behind a two-digit field for the next one. With `separated`, fields are divided by colons;
otherwise they follow at once. `more` says that the text goes on behind `cs`. -/
def afterField (separated more : Bool) : List Char → Option AfterField
  | [] => some (.finished more)
  | [_] => some (.finished true)
  | c :: rest =>
    if separated && c == ':' then some (.field rest)
    else if c == '.' || c == ',' then some (.fraction rest)
    else if !separated then some (.field (c :: rest))
    else none

/-- Reads a time: hours, then minutes, then seconds, then a fraction, as far as the text goes. -/
def readClock (cs : List Char) (more : Bool) : Option ClockFields := do
  let (hour, rest) ← takeNumber 2 cs
  let separated := rest.head? == some ':'
  match ← afterField separated more rest with
  | .finished unread => pure ⟨hour, 0, 0, 0, unread⟩
  | .fraction rest =>
    let (micro, unread) ← readFraction rest more
    pure ⟨hour, 0, 0, micro, unread⟩
  | .field rest =>
    let (minute, rest) ← takeNumber 2 rest
    match ← afterField separated more rest with
    | .finished unread => pure ⟨hour, minute, 0, 0, unread⟩
    | .fraction rest =>
      let (micro, unread) ← readFraction rest more
      pure ⟨hour, minute, 0, micro, unread⟩
    | .field rest =>
      let (second, rest) ← takeNumber 2 rest
      match ← afterField separated more rest with
      | .finished unread => pure ⟨hour, minute, second, 0, unread⟩
      | .fraction rest | .field rest =>
        let (micro, unread) ← readFraction rest more
        pure ⟨hour, minute, second, micro, unread⟩

/-- A sign or letter that begins an offset. -/
def startsOffset (c : Char) : Bool :=
  c == '+' || c == '-' || c == 'Z'

/-- Reads the offset behind a sign. An offset of zero hours, minutes and seconds is zero whatever
its fraction says. -/
def readOffset (negative : Bool) (cs : List Char) : Option Offset := do
  let fields ← readClock cs false
  if fields.unread then none
  else
    let seconds := fields.hour * 3600 + fields.minute * 60 + fields.second
    Offset.make? negative (if seconds = 0 then 0 else seconds * 1000000 + fields.micro)

/-- Reads a time of day and the offset behind it, if there is one. -/
def readTime (cs : List Char) : Option (Clock × Option Offset) := do
  let front := cs.takeWhile fun c => !startsOffset c
  let back := cs.dropWhile fun c => !startsOffset c
  let fields ← readClock front (!back.isEmpty)
  let clock ← Clock.make? fields.hour fields.minute fields.second fields.micro
  match back with
  | [] => if fields.unread then none else pure (clock, none)
  | ['Z'] => (Offset.make? false 0).map fun o => (clock, some o)
  | 'Z' :: _ => none
  | sign :: rest => (readOffset (sign == '-') rest).map fun o => (clock, some o)

/-- Reads a day, or a day and a time with any one character between them. -/
def DateTime.ofIsoChars? (cs : List Char) : Option DateTime :=
  if cs.length < 7 then none
  else do
    let date ← Date.ofIso? (cs.take (dayLength cs))
    match cs.drop (dayLength cs) with
    | [] => pure date.midnight
    | _ :: rest =>
      let (clock, offset) ← readTime rest
      pure ⟨date, clock, offset⟩

/-- Reads a day, or a day and a time with any one character between them. -/
def DateTime.ofIso? (s : String) : Option DateTime :=
  DateTime.ofIsoChars? s.toList

end BookCatalog
