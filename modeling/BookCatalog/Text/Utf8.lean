import BookCatalog.Text.Quoted

/-!
# Decoding UTF-8

`decodeUtf8` reads bytes as UTF-8. Wherever the bytes are not a character, the longest start of one
that they could have been becomes a single replacement character, and reading goes on behind it. A
mark at the beginning of the text is a character like any other. `utf8Fault?` finds the first place
where bytes are not text.
-/

namespace BookCatalog.Text

/-- What stands for bytes that are not text. -/
def replacement : Char := '\uFFFD'

/-- The bytes that may follow the first byte of a longer character, and how many there are in all;
`none` for a byte that starts no longer character. -/
def follow? (lead : Nat) : Option (Nat × Nat × Nat) :=
  if lead < 0xC2 then none
  else if lead < 0xE0 then some (0x80, 0xBF, 1)
  else if lead = 0xE0 then some (0xA0, 0xBF, 2)
  else if lead = 0xED then some (0x80, 0x9F, 2)
  else if lead < 0xF0 then some (0x80, 0xBF, 2)
  else if lead = 0xF0 then some (0x90, 0xBF, 3)
  else if lead < 0xF4 then some (0x80, 0xBF, 3)
  else if lead = 0xF4 then some (0x80, 0x8F, 3)
  else none

/-- The part of the code point that the first byte of a longer character holds. -/
def leadBits (lead : Nat) : Nat :=
  if lead < 0xE0 then lead - 0xC0 else if lead < 0xF0 then lead - 0xE0 else lead - 0xF0

/-- A character that has begun: the code point so far, how many bytes are still to come, and the
range that the next of them must lie in. -/
structure Started where
  code : Nat
  missing : Nat
  low : Nat
  high : Nat

/-- A decoder: the characters read, last first, and the one that has begun. -/
structure Decoder where
  out : List Char
  started : Option Started

namespace Decoder

/-- Takes the first byte of a character. -/
def start (out : List Char) (b : Nat) : Decoder :=
  if b < 0x80 then ⟨Char.ofNat b :: out, none⟩
  else match follow? b with
    | some (low, high, missing) => ⟨out, some ⟨leadBits b, missing, low, high⟩⟩
    | none => ⟨replacement :: out, none⟩

/-- Takes the next byte. -/
def step (d : Decoder) (b : UInt8) : Decoder :=
  match d.started with
  | none => start d.out b.toNat
  | some s =>
    if s.low ≤ b.toNat && b.toNat ≤ s.high then
      let code := 64 * s.code + (b.toNat - 0x80)
      if s.missing = 1 then ⟨Char.ofNat code :: d.out, none⟩
      else ⟨d.out, some ⟨code, s.missing - 1, 0x80, 0xBF⟩⟩
    else start (replacement :: d.out) b.toNat

/-- The text read; a character that was never completed becomes a replacement. -/
def finish (d : Decoder) : List Char :=
  match d.started with
  | none => d.out.reverse
  | some _ => (replacement :: d.out).reverse

end Decoder

/-- The characters that bytes hold. -/
def decodeUtf8 (bytes : List UInt8) : List Char :=
  (bytes.foldl Decoder.step ⟨[], none⟩).finish

/-- What is wrong with bytes that are not a character. -/
inductive Utf8Cause where
  | start
  | continuation
  | tooShort
  deriving DecidableEq, Repr

/-- The text of a cause. -/
def Utf8Cause.message : Utf8Cause → String
  | .start => "invalid start byte"
  | .continuation => "invalid continuation byte"
  | .tooShort => "unexpected end of data"

/-- Bytes that are not a character: where they start, how many they are, and the first of them. -/
structure Utf8Fault where
  position : Nat
  length : Nat
  lead : UInt8
  cause : Utf8Cause
  deriving DecidableEq, Repr

/-- How many bytes go on with a character, out of those that it lacks: the next one in a range, the
others anywhere in theirs. -/
def continued (low high : Nat) : Nat → List UInt8 → Nat
  | 0, _ => 0
  | _, [] => 0
  | missing + 1, b :: rest =>
    if low ≤ b.toNat && b.toNat ≤ high then continued 0x80 0xBF missing rest + 1 else 0

/-- What is wrong with the first character of bytes, if anything. -/
def leadFault? (position : Nat) (b : UInt8) (rest : List UInt8) : Option Utf8Fault :=
  if b.toNat < 0x80 then none
  else match follow? b.toNat with
    | none => some ⟨position, 1, b, .start⟩
    | some (low, high, missing) =>
      let n := continued low high missing rest
      if n = missing then none
      else some ⟨position, n + 1, b, if rest.length = n then .tooShort else .continuation⟩

/-- The first bytes that are not a character, if there are any; `skip` bytes belong to a character
that has been looked at. -/
def utf8FaultFrom (position skip : Nat) : List UInt8 → Option Utf8Fault
  | [] => none
  | b :: rest =>
    match skip with
    | skip + 1 => utf8FaultFrom (position + 1) skip rest
    | 0 =>
      match leadFault? position b rest with
      | some fault => some fault
      | none =>
        utf8FaultFrom (position + 1)
          (((follow? b.toNat).map fun (_, _, missing) => missing).getD 0) rest

/-- The first bytes that are not a character, if there are any. -/
def utf8Fault? (bytes : List UInt8) : Option Utf8Fault :=
  utf8FaultFrom 0 0 bytes

/-- The text of a fault. -/
def Utf8Fault.message (f : Utf8Fault) : String :=
  let place :=
    if f.length = 1 then
      s!"byte 0x{String.ofList (hexDigits 2 f.lead.toNat)} in position {f.position}"
    else s!"bytes in position {f.position}-{f.position + f.length - 1}"
  s!"'utf-8' codec can't decode {place}: {f.cause.message}"

end BookCatalog.Text
