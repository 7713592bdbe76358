import BookCatalog.Archive.Member
import BookCatalog.Listing.Basic
import BookCatalog.Listing.Header

/-!
# Index files

An index file is an archive of listings and of a text with a heading. `Inpx.read` reads one: the
books of all listings in the order of the archive, and the heading if there is one.
-/

namespace BookCatalog

open Archive (Member)

/-- What is found at the path of an index file. -/
inductive IndexSource where
  | missing
  | directory
  | file (members : Except ArchiveError (List Member))

/-- An index file: its path and what is found there. -/
structure IndexFile where
  path : String
  source : IndexSource

/-- The content of an index file. -/
structure Inpx where
  books : List Entry := []
  collection : Option CollectionInfo := none
  deriving DecidableEq, Repr

/-- Why a file cannot be read as an archive. -/
inductive Unreadable where
  | missing
  | directory
  | damaged (cause : ArchiveError)
  deriving DecidableEq, Repr

/-- The text of a cause. -/
def Unreadable.message (path : String) : Unreadable → String
  | .missing => "[Errno 2] No such file or directory: " ++ Text.quoted path
  | .directory => "[Errno 21] Is a directory: " ++ Text.quoted path
  | .damaged cause => cause.message

/-- Why an index file cannot be read: it is no archive, its heading is malformed, or the archive
does what this library does not support. -/
inductive InpxError where
  | unreadable (path : String) (cause : Unreadable)
  | heading
  | archive (cause : ArchiveError)
  deriving DecidableEq, Repr

/-- The text of an error. -/
def InpxError.message : InpxError → String
  | .unreadable path cause => s!"Cannot read INPX file {path}: {cause.message path}"
  | .heading => "Invalid collection.info format"
  | .archive cause => cause.message

/-- An archive error in an index file. -/
def InpxError.ofArchive (path : String) (cause : ArchiveError) : InpxError :=
  if cause.family = .damage then .unreadable path (.damaged cause) else .archive cause

namespace Inpx

/-- The end of a member's name that marks a listing. -/
def listingSuffix : List Char := ".inp".toList

/-- The name of the member with the heading. -/
def headingName : String := "collection.info"

/-- Adds the books of a listing. -/
def addListing (inpx : Inpx) (text member : List Char) : Inpx :=
  { inpx with books := inpx.books ++ Listing.books text member }

/-- Reads members one after the other; other members than listings and the heading are passed
over. -/
def readMembers (path : String) (inpx : Inpx) : List Member → Reply InpxError Inpx
  | [] => { outcome := .ok inpx }
  | m :: rest =>
    if listingSuffix.isSuffixOf m.name.toList then
      match m.content with
      | .error e => { outcome := .error (.ofArchive path e) }
      | .ok bytes =>
        let text := Text.decodeUtf8 bytes
        let reply := readMembers path (inpx.addListing text m.name.toList) rest
        { reply with notices := Listing.notices text m.name.toList ++ reply.notices }
    else if m.name = headingName then
      match m.content with
      | .error e => { outcome := .error (.ofArchive path e) }
      | .ok bytes =>
        match CollectionInfo.read? (Text.decodeUtf8 bytes) with
        | none => { outcome := .error .heading }
        | some info => readMembers path { inpx with collection := some info } rest
    else readMembers path inpx rest

/-- Reads an index file. -/
def read (path : String) : IndexSource → Reply InpxError Inpx
  | .missing => { outcome := .error (.unreadable path .missing) }
  | .directory => { outcome := .error (.unreadable path .directory) }
  | .file (.error e) => { outcome := .error (.ofArchive path e) }
  | .file (.ok members) => readMembers path {} members

end Inpx

end BookCatalog
