import BookCatalog.Archive.Failure

/-!
# Decoders

The data of a member are stored as they are or compressed in one of three ways. Deflated data are
unfolded here; the decoders for the two other ways are parts of the installation, and either of them
may be missing.
-/

namespace BookCatalog.Archive

/-- What the data of a member unfold to, or why they do not. -/
abbrev Decoder := Bytes → Except ArchiveError Inflated

/-- The decoders of an installation, none for one that is missing. `bzip2` gives nothing for what is
no stream of its kind. `lzma` is given the properties of the stream as well, and says what is wrong
with it. Both give what they have when the data end too early. -/
structure Codecs where
  bzip2 : Option (Bytes → Option Inflated) := none
  lzma : Option (Bytes → Bytes → Except String Inflated) := none

/-- Unfolds a bzip2 stream. -/
def bzip2Decoder (decode : Bytes → Option Inflated) : Decoder := fun data =>
  match decode data with
  | some unfolded => .ok unfolded
  | none => .error .invalidStream

/-- Unfolds an LZMA stream: two bytes for the version, the size of the properties, the properties,
and the stream itself. Nothing is unfolded before the stream begins. -/
def lzmaDecoder (decode : Bytes → Bytes → Except String Inflated) : Decoder := fun data =>
  let size := field data 2 2
  if data.length ≤ 4 + size then .ok ⟨[], false⟩
  else (decode (part data 4 size) (data.drop (4 + size))).mapError .lzma

/-- The decoder for a way of compression, if it is supported and not missing. -/
def Codecs.decoder (codecs : Codecs) (method : Nat) : Except ArchiveError Decoder :=
  match method with
  | 0 => .ok fun data => .ok ⟨data, false⟩
  | 8 => .ok fun data => (inflate data).mapError .compression
  | 12 => match codecs.bzip2 with
    | some decode => .ok (bzip2Decoder decode)
    | none => .error (.decoderMissing "bz2")
  | 14 => match codecs.lzma with
    | some decode => .ok (lzmaDecoder decode)
    | none => .error (.decoderMissing "lzma")
  | _ => .error .method

end BookCatalog.Archive
