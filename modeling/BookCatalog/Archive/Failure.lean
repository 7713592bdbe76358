import BookCatalog.Archive.Deflate
import BookCatalog.Text.Quoted
import BookCatalog.Text.Utf8

/-!
# What can be wrong with an archive

`ArchiveError` says why an archive or one of its members cannot be read. Damage is told apart from
what the format allows and this library does not read.
-/

namespace BookCatalog

open Text

/-- Which of its numbers a member keeps in an extra field. -/
inductive WideNumber where
  | size
  | packedSize
  | offset
  deriving DecidableEq, Repr

/-- The name of a number. -/
def WideNumber.name : WideNumber → String
  | .size => "File size"
  | .packedSize => "Compress size"
  | .offset => "Header offset"

/-- Why an archive cannot be read. -/
inductive ArchiveError where
  | notAnArchive
  | severalDisks
  | directoryOffset
  | directoryTruncated
  | directoryMark
  | extraField (id size : Nat)
  | wideNumber (missing : WideNumber)
  | negativeOffset
  | headerTruncated
  | headerMark
  | nameDiffers (expected : String) (found : Archive.Bytes)
  | overlap (name : String)
  | checksum (name : String)
  | newerVersion (tenths : Nat)
  | patched
  | strongEncryption
  | method
  | encrypted (description : String)
  | decoderMissing (name : String)
  | compression (cause : Archive.DeflateError)
  | invalidStream
  | lzma (message : String)
  | nameNotText (fault : Utf8Fault)
  | offsetTooLarge
  | dataMissing
  deriving DecidableEq, Repr

/-- The kinds of archive errors: the archive is damaged, or it uses a feature that is not supported,
needs a password or a decoder that is not there, holds compressed data that is not, a name that is
not text, a number that is no offset, or ends too early. -/
inductive ArchiveError.Family where
  | damage
  | unsupported
  | password
  | compression
  | nameNotText
  | offset
  | ending
  deriving DecidableEq, Repr

namespace ArchiveError

/-- The kind of an error. -/
def family : ArchiveError → Family
  | .newerVersion _ | .patched | .strongEncryption | .method => .unsupported
  | .encrypted _ | .decoderMissing _ => .password
  | .compression _ | .lzma _ => .compression
  | .nameNotText _ => .nameNotText
  | .offsetTooLarge => .offset
  | .dataMissing => .ending
  | _ => .damage

/-- The text of an error. -/
def message : ArchiveError → String
  | .notAnArchive => "File is not a zip file"
  | .severalDisks => "zipfiles that span multiple disks are not supported"
  | .directoryOffset => "Bad offset for central directory"
  | .directoryTruncated => "Truncated central directory"
  | .directoryMark => "Bad magic number for central directory"
  | .extraField id size =>
    s!"Corrupt extra field {String.ofList (hexDigits 4 id)} (size={size})"
  | .wideNumber missing => s!"Corrupt zip64 extra field. {missing.name} not found."
  | .negativeOffset => "[Errno 22] Invalid argument"
  | .headerTruncated => "Truncated file header"
  | .headerMark => "Bad magic number for file header"
  | .nameDiffers expected found =>
    s!"File name in directory {quoted expected} and header {quotedBytes found} differ."
  | .overlap name => s!"Overlapped entries: {quoted name} (possible zip bomb)"
  | .checksum name => s!"Bad CRC-32 for file {quoted name}"
  | .newerVersion tenths => s!"zip file version {tenths / 10}.{tenths % 10}"
  | .patched => "compressed patched data (flag bit 5)"
  | .strongEncryption => "strong encryption (flag bit 6)"
  | .method => "That compression method is not supported"
  | .encrypted description =>
    s!"File {description} is encrypted, password required for extraction"
  | .decoderMissing name => s!"Compression requires the (missing) {name} module"
  | .compression cause => "Error -3 while decompressing data: " ++ cause.message
  | .invalidStream => "Invalid data stream"
  | .lzma message => message
  | .nameNotText fault => fault.message
  | .offsetTooLarge => "cannot fit 'int' into an index-sized integer"
  | .dataMissing => ""

end ArchiveError

end BookCatalog
