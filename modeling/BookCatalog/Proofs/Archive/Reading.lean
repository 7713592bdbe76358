import BookCatalog.Inpx
import BookCatalog.Proofs.Archive.Demands

/-!
# What is read of an index file

An index file is read if its directory and the members of interest can be read; the first of them
that cannot decides how reading fails (`outcome_readMembers`). Damage is one kind of failure.
Whatever else fails is demanded by the archive (`read_file`).
-/

namespace BookCatalog.Inpx

open Archive (Bytes Member)

/-- The names of members that are of interest. -/
def Reads (name : String) : Prop :=
  listingSuffix.isSuffixOf name.toList ∨ name = headingName

instance (name : String) : Decidable (Reads name) := by
  unfold Reads
  infer_instance

/-- The characters of a member. -/
def text? (m : Member) : Option (List Char) :=
  m.content.toOption.map Text.decodeUtf8

/-- The books of a member, if it is a listing. -/
def listed (m : Member) : List Entry :=
  if listingSuffix.isSuffixOf m.name.toList then
    (text? m).elim [] fun text => Listing.books text m.name.toList
  else []

/-- The heading that a member is. -/
def heading? (m : Member) : Option CollectionInfo :=
  if m.name = headingName then (text? m).bind CollectionInfo.read? else none

/-- Why a member of interest cannot be read. -/
def fault? (path : String) (m : Member) : Option InpxError :=
  if Reads m.name then
    match m.content with
    | .error cause => some (.ofArchive path cause)
    | .ok _ => if m.name = headingName ∧ heading? m = none then some .heading else none
  else none

/-- What the members of an archive hold. -/
def ofMembers (ms : List Member) : Inpx :=
  { books := ms.flatMap listed, collection := (ms.filterMap heading?).getLast? }

/-- Everything of an index file, and what is behind it. -/
def append (inpx more : Inpx) : Inpx :=
  { books := inpx.books ++ more.books, collection := more.collection.or inpx.collection }

variable {codecs : Archive.Codecs} {path : String} {m : Member} {ms : List Member} {bytes : Bytes}
  {cause cause' : ArchiveError} {inpx : Inpx}

/-- The heading of an index file is no listing. -/
lemma heading_not_listing : ¬ listingSuffix <:+ headingName.toList := by
  decide

/-! ## One member -/

/-- No members add nothing. -/
lemma append_ofMembers_nil : inpx.append (ofMembers []) = inpx := by
  rw [append, ofMembers, List.flatMap_nil, List.append_nil]
  rfl

/-- Members are added one after the other. -/
lemma append_cons : inpx.append (ofMembers (m :: ms)) =
    (inpx.append { books := listed m, collection := heading? m }).append (ofMembers ms) := by
  have collection : ((m :: ms).filterMap heading?).getLast?.or inpx.collection =
      (ms.filterMap heading?).getLast?.or ((heading? m).or inpx.collection) := by
    rw [← Option.or_assoc]
    congr 1
    rw [List.filterMap_cons]
    cases heading? m with
    | none => rw [Option.or_none]
    | some info =>
      rw [List.getLast?_cons]
      cases (ms.filterMap heading?).getLast? <;> rfl
  rw [append, append, append, ofMembers, ofMembers, collection, List.flatMap_cons,
    List.append_assoc]

/-- Reading goes on behind a member without a fault, with what the member holds, and stops at one
with a fault. -/
lemma outcome_readMembers_cons :
    (readMembers path inpx (m :: ms)).outcome =
      (fault? path m).elim
        (readMembers path (inpx.append { books := listed m, collection := heading? m }) ms).outcome
        .error := by
  by_cases listing : listingSuffix <:+ m.name.toList
  · have other : m.name ≠ headingName := fun named => heading_not_listing (named ▸ listing)
    cases content : m.content with
    | error cause => simp [readMembers, fault?, Reads, listing, content]
    | ok bytes =>
      simp [readMembers, fault?, Reads, listed, heading?, text?, append, addListing,
        Except.toOption, listing, other, content]
  · by_cases named : m.name = headingName
    · have plain := heading_not_listing
      cases content : m.content with
      | error cause => simp [readMembers, fault?, Reads, plain, named, content]
      | ok bytes =>
        cases read : CollectionInfo.read? (Text.decodeUtf8 bytes) with
        | none =>
          simp [readMembers, fault?, Reads, heading?, text?, Except.toOption, plain, named,
            content, read]
        | some info =>
          simp [readMembers, fault?, Reads, listed, heading?, text?, append, Except.toOption,
            plain, named, content, read]
    · simp [readMembers, fault?, Reads, listed, heading?, append, listing, named]

/-- What is read is everything that the members hold, unless one has a fault. -/
lemma outcome_readMembers :
    (readMembers path inpx ms).outcome =
      ((ms.findSome? (fault? path)).elim (.ok (inpx.append (ofMembers ms))) .error) := by
  induction ms generalizing inpx with
  | nil =>
    rw [readMembers, append_ofMembers_nil]
    rfl
  | cons m ms ih =>
    rw [outcome_readMembers_cons, List.findSome?_cons, append_cons, ih]
    cases fault? path m <;> rfl

/-- Nothing is there in front of the first member. -/
lemma append_empty (more : Inpx) : ({} : Inpx).append more = more := by
  rw [append, Option.or_none]
  rfl

/-- A file is read by reading its directory and then its members, up to the first fault. -/
lemma outcome_file (source : Except ArchiveError (List Member)) :
    (read path (.file source)).outcome =
      (source.mapError (.ofArchive path) >>= fun ms =>
        (ms.findSome? (fault? path)).elim (.ok (ofMembers ms)) .error) := by
  cases source with
  | error cause => rfl
  | ok ms =>
    show (readMembers path {} ms).outcome = _
    rw [outcome_readMembers, append_empty]
    rfl

/-- A file is read if its directory is and no member has a fault. -/
lemma read_eq_ok {source : Except ArchiveError (List Member)} :
    (read path (.file source)).outcome = .ok inpx ↔
      ∃ ms, source = .ok ms ∧ (∀ m ∈ ms, fault? path m = none) ∧ inpx = ofMembers ms := by
  rw [outcome_file]
  constructor
  · intro ok
    cases source with
    | error cause => cases ok
    | ok ms =>
      change (ms.findSome? (fault? path)).elim _ _ = _ at ok
      cases first : ms.findSome? (fault? path) with
      | none =>
        rw [first] at ok
        cases ok
        exact ⟨ms, rfl, List.findSome?_eq_none_iff.1 first, rfl⟩
      | some e =>
        rw [first] at ok
        cases ok
  · rintro ⟨ms, rfl, sound, rfl⟩
    show (ms.findSome? (fault? path)).elim _ _ = _
    rw [List.findSome?_eq_none_iff.2 sound]
    rfl

end BookCatalog.Inpx
