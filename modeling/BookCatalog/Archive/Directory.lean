import BookCatalog.Archive.Failure
import BookCatalog.Text.CodePage

/-!
# The directory of an archive

An archive ends with a record that says where its directory is, perhaps with a comment behind it and
a wider record in front of it. The directory has an entry for every member. Offsets are taken from
where the archive begins, and something else may stand in front of it.
-/

namespace BookCatalog.Archive

open Text

/-- The record at the end of an archive: the size and the offset of the directory, where the record
stands, and whether the numbers come from a wide record. -/
structure EndRecord where
  size : Nat
  offset : Nat
  location : Nat
  wide : Bool
  deriving DecidableEq, Repr

/-- The size of the record at the end. -/
def endSize : Nat := 22

/-- The size of the record that says where the wide record is. -/
def locatorSize : Nat := 20

/-- The size of the wide record. -/
def wideSize : Nat := 56

/-- Where a sequence of bytes occurs last, if it does; `found` is where it occurs further ahead. -/
def lastIndex (what : Bytes) (position : Nat) (found : Option Nat) : Bytes → Option Nat
  | [] => found
  | b :: rest =>
    lastIndex what (position + 1)
      (if what.isPrefixOf (b :: rest) then some position else found) rest

/-- Where the record at the end stands. -/
def endLocation? (file : Bytes) : Option Nat :=
  if file.length < endSize then none
  else
    let tail := file.drop (file.length - endSize)
    if hasMark (mark 5 6) tail && tail.drop 20 == [0, 0] then some (file.length - endSize)
    else
      let start := file.length - (65536 + endSize)
      match lastIndex (mark 5 6) start none (file.drop start) with
      | some i => if i + endSize ≤ file.length then some i else none
      | none => none

/-- The record at a place, with the numbers of the wide record if there is one in front of it. -/
def EndRecord.readAt (file : Bytes) (location : Nat) : Except ArchiveError EndRecord :=
  let narrow : EndRecord :=
    { size := field file (location + 12) 4, offset := field file (location + 16) 4, location
      wide := false }
  let locator := part file (location - locatorSize) locatorSize
  if location < locatorSize || !hasMark (mark 6 7) locator then .ok narrow
  else if field locator 4 4 ≠ 0 || 1 < field locator 16 4 then .error .severalDisks
  else if location < locatorSize + wideSize then .error .notAnArchive
  else
    let record := part file (location - locatorSize - wideSize) wideSize
    if hasMark (mark 6 6) record then
      .ok { size := field record 40 8, offset := field record 48 8, location, wide := true }
    else .ok narrow

namespace EndRecord

/-- The record at the end of a file. -/
def ofFile? (file : Bytes) : Except ArchiveError EndRecord :=
  match endLocation? file with
  | some location => readAt file location
  | none => .error .notAnArchive

/-- How many bytes stand in front of the archive. -/
def shift (e : EndRecord) : Int :=
  (e.location : Int) - e.size - e.offset - if e.wide then locatorSize + wideSize else 0

/-- Where the directory stands. -/
def directoryStart (e : EndRecord) : Int :=
  e.offset + e.shift

end EndRecord

/-- An entry of the directory. The name is whole, and the offset is counted from the beginning of
the file. -/
structure Header where
  fullName : String
  flags : Nat
  method : Nat
  crc : Nat
  packedSize : Nat
  size : Nat
  attributes : Nat
  offset : Int
  deriving DecidableEq, Repr

/-- A bit of the flags of a member. -/
def flagSet (flags bit : Nat) : Bool :=
  flags.testBit bit

/-- The name of a member: UTF-8 if the flags say so, and else of the code page. -/
def memberName (flags : Nat) (bytes : Bytes) : Except ArchiveError String :=
  if flagSet flags 11 then
    match utf8Fault? bytes with
    | some fault => .error (.nameNotText fault)
    | none => .ok (String.ofList (decodeUtf8 bytes))
  else .ok (String.ofList (decodeCodePage bytes))

/-- The number that stands for one that is found in an extra field. -/
def elsewhere : Nat := 0xFFFFFFFF

/-- The numbers of a member that may be found in an extra field. -/
structure Sizes where
  size : Nat
  packedSize : Nat
  offset : Nat
  deriving DecidableEq, Repr

/-- Reads a wide number from the front of a field. -/
def wideNumber (n : WideNumber) (data : Bytes) : Except ArchiveError (Nat × Bytes) :=
  if data.length < 8 then .error (.wideNumber n) else .ok (field data 0 8, data.drop 8)

/-- Takes the numbers that are found elsewhere from an extra field, in this order. -/
def Sizes.widen (s : Sizes) (data : Bytes) : Except ArchiveError Sizes := do
  let (size, data) ←
    if s.size = elsewhere ∨ s.size = 0xFFFFFFFFFFFFFFFF then wideNumber .size data
    else pure (s.size, data)
  let (packedSize, data) ←
    if s.packedSize = elsewhere then wideNumber .packedSize data else pure (s.packedSize, data)
  let (offset, _) ←
    if s.offset = elsewhere then wideNumber .offset data else pure (s.offset, data)
  pure { size, packedSize, offset }

/-- Reads the extra fields of a member one after the other. -/
def Sizes.readExtra (s : Sizes) (extra : Bytes) : Except ArchiveError Sizes :=
  if _h : extra.length < 4 then .ok s
  else
    let id := field extra 0 2
    let size := field extra 2 2
    if extra.length < size + 4 then .error (.extraField id size)
    else do
      let s ← if id = 1 then s.widen (part extra 4 size) else pure s
      s.readExtra (extra.drop (size + 4))
  termination_by extra.length
  decreasing_by simp only [List.length_drop]; omega

/-- The size of an entry without its name and other fields of variable size. -/
def entrySize : Nat := 46

/-- The newest version of the format, in tenths, that is recognized. -/
def newestVersion : Nat := 63

/-- Reads an entry, given its parts of fixed and of variable size. -/
def Header.read (shift : Int) (fixed name extra : Bytes) : Except ArchiveError Header := do
  let flags := field fixed 8 2
  let fullName ← memberName flags name
  let version := field fixed 6 1
  if newestVersion < version then .error (.newerVersion version)
  else
    let sizes : Sizes :=
      { size := field fixed 24 4, packedSize := field fixed 20 4, offset := field fixed 42 4 }
    let sizes ← sizes.readExtra extra
    pure
      { fullName
        flags
        method := field fixed 10 2
        crc := field fixed 16 4
        packedSize := sizes.packedSize
        size := sizes.size
        attributes := field fixed 38 4
        offset := sizes.offset + shift }

/-- Reads the entries of a directory one after the other. -/
def readEntries (shift : Int) (directory : Bytes) : Except ArchiveError (List Header) :=
  if _h : directory.length = 0 then .ok []
  else if directory.length < entrySize then .error .directoryTruncated
  else if !hasMark (mark 1 2) directory then .error .directoryMark
  else do
    let name := field directory 28 2
    let extra := field directory 30 2
    let comment := field directory 32 2
    let header ←
      Header.read shift (directory.take entrySize) (part directory entrySize name)
        (part directory (entrySize + name) extra)
    let rest ← readEntries shift (directory.drop (entrySize + name + extra + comment))
    pure (header :: rest)
  termination_by directory.length
  decreasing_by simp only [List.length_drop, entrySize]; omega

/-- The directory of an archive: where it stands, and its entries. -/
structure Directory where
  start : Int
  entries : List Header
  deriving DecidableEq, Repr

/-- The directory of a file. -/
def Directory.ofFile? (file : Bytes) : Except ArchiveError Directory := do
  let e ← EndRecord.ofFile? file
  if e.directoryStart < 0 then .error .directoryOffset
  else
    let entries ← readEntries e.shift (part file e.directoryStart.toNat e.size)
    pure { start := e.directoryStart, entries }

/-- The entries of a directory, each with the place where the next member begins or, behind the last
one, the directory. -/
def Directory.bounded (d : Directory) : List (Header × Int) :=
  let byOffset :=
    d.entries.zipIdx.mergeSort fun a b => b.1.offset ≤ a.1.offset
  let ends := d.start :: byOffset.map (·.1.offset)
  let placed := (byOffset.zip ends).mergeSort fun a b => a.1.2 ≤ b.1.2
  placed.map fun ((header, _), next) => (header, next)

end BookCatalog.Archive
