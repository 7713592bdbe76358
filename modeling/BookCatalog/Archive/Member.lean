import BookCatalog.Archive.Checksum
import BookCatalog.Archive.Decoder
import BookCatalog.Archive.Directory

/-!
# The members of an archive

`Archive.members` gives the members of a file that is an archive, in the order of its directory: the
name of each, and its content or why that cannot be had. The data of a member are taken in one
piece, as they are up to a gibibyte.
-/

namespace BookCatalog.Archive

open Text

/-- A member of an archive. -/
structure Member where
  name : String
  content : Except ArchiveError Bytes

/-- A name up to the first NUL. -/
def shortName (name : String) : String :=
  String.ofList (name.toList.takeWhile (· ≠ '\x00'))

/-- The name by which a member is known. -/
def Header.name (h : Header) : String :=
  shortName h.fullName

/-- The letter of the kind of a file, by its mode. -/
def kindLetter (mode : Nat) : Char :=
  match mode / 0o10000 with
  | 0o10 => '-'
  | 0o4 => 'd'
  | 0o12 => 'l'
  | 0o6 => 'b'
  | 0o2 => 'c'
  | 0o1 => 'p'
  | 0o14 => 's'
  | _ => '?'

/-- The letter of a permission to execute, which a special bit may go with. -/
def executeLetter (executable special : Bool) (letter : Char) : Char :=
  if special then (if executable then letter else letter.toUpper)
  else if executable then 'x' else '-'

/-- A file mode in letters. -/
def modeLetters (mode : Nat) : List Char :=
  let r := fun bit => if mode.testBit bit then 'r' else '-'
  let w := fun bit => if mode.testBit bit then 'w' else '-'
  let x := fun bit special letter =>
    executeLetter (mode.testBit bit) (mode.testBit special) letter
  [kindLetter mode, r 8, w 7, x 6 11 's', r 5, w 4, x 3 10 's', r 2, w 1, x 0 9 't']

/-- The name of a way of compression. -/
def methodName (method : Nat) : String :=
  match method with
  | 1 => "shrink"
  | 2 | 3 | 4 | 5 => "reduce"
  | 6 | 10 => "implode"
  | 7 => "tokenize"
  | 8 => "deflate"
  | 9 => "deflate64"
  | 12 => "bzip2"
  | 14 => "lzma"
  | 18 => "terse"
  | 19 => "lz77"
  | 97 => "wavpack"
  | 98 => "ppmd"
  | n => toString n

/-- A directory entry as messages show it. -/
def Header.description (h : Header) : String :=
  let isDirectory := h.name.toList.getLast? = some '/'
  let high := h.attributes / 65536
  let low := h.attributes % 65536
  String.join
    ["<ZipInfo filename=", quoted h.name,
      if h.method = 0 then "" else " compress_type=" ++ methodName h.method,
      if high = 0 then "" else " filemode=" ++ quoted (String.ofList (modeLetters high)),
      if low = 0 then "" else " external_attr=0x" ++ String.ofList (hexDigits 1 low),
      if isDirectory ∧ h.size = 0 then "" else s!" file_size={h.size}",
      if (isDirectory ∧ h.packedSize = 0) ∨ (h.method = 0 ∧ h.size = h.packedSize) then ""
      else s!" compress_size={h.packedSize}",
      ">"]

/-- The size of a local header without its name and extra field. -/
def localSize : Nat := 30

/-- The largest offset that a file can have. -/
def largestOffset : Int := 9223372036854775807

/-- Finds where the data of a member starts, by the header in front of it. -/
def Header.dataStart (h : Header) (file : Bytes) : Except ArchiveError Nat :=
  if largestOffset < h.offset then .error .offsetTooLarge
  else if h.offset < 0 then .error .negativeOffset
  else do
    let rest := file.drop h.offset.toNat
    let fixed := rest.take localSize
    if fixed.length < localSize then .error .headerTruncated
    else if !hasMark (mark 3 4) fixed then .error .headerMark
    else
      let nameSize := field fixed 26 2
      let name := part rest localSize nameSize
      if flagSet h.flags 5 then .error .patched
      else if flagSet h.flags 6 then .error .strongEncryption
      else
        let found ← memberName (field fixed 6 2) name
        if found ≠ h.fullName then .error (.nameDiffers h.fullName name)
        else
          pure (min file.length (h.offset.toNat + localSize + nameSize + field fixed 28 2))

/-- Unfolds the data of a member by a decoder; there is nothing in no data. -/
def unfold (decode : Decoder) (data : Bytes) : Except ArchiveError Inflated :=
  if data.isEmpty then .ok ⟨[], false⟩ else decode data

/-- The content of a member behind its header: as many bytes as the directory says, or all there
are. The data must be there and the content must have the right checksum. -/
def Header.extract (h : Header) (decode : Decoder) (file : Bytes) (start : Nat) :
    Except ArchiveError Bytes := do
  let data := part file start h.packedSize
  if data.isEmpty ∧ 0 < h.packedSize then .error .dataMissing
  else
    let unfolded ← unfold decode data
    let content := unfolded.bytes.take h.size
    if data.length < h.packedSize ∧ !unfolded.ended ∧ content.length < h.size then
      .error .dataMissing
    else if checksum content ≠ h.crc then .error (.checksum h.name)
    else pure content

/-- The content of a member, given where the next one begins. -/
def Header.content (codecs : Codecs) (file : Bytes) (h : Header) (next : Int) :
    Except ArchiveError Bytes := do
  let start ← h.dataStart file
  if next < (start + h.packedSize : Nat) then .error (.overlap h.fullName)
  else if flagSet h.flags 0 then .error (.encrypted h.description)
  else
    let decode ← codecs.decoder h.method
    h.extract decode file start

/-- The members of an archive. -/
def members (file : Bytes) (codecs : Codecs := {}) : Except ArchiveError (List Member) := do
  let directory ← Directory.ofFile? file
  pure (directory.bounded.map fun (header, next) => ⟨header.name, header.content codecs file next⟩)

end BookCatalog.Archive
