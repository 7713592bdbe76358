import BookCatalog.Archive.Field
import BookCatalog.Archive.Huffman

/-!
# Compressed data

Compressed data is a sequence of blocks: bytes stored as they are, or literals and references to
earlier bytes, written in prefix codes that are fixed or described at the head of the block. An
`Inflater` takes the bits one by one; `inflate` gives what they unfold to, also where they end too
early.
-/

namespace BookCatalog.Archive

/-- Why bits are not compressed data. -/
inductive DeflateError where
  | blockKind
  | storedSize
  | tooManySymbols
  | lengthCode
  | repetition
  | noEndOfBlock
  | literalLengths
  | distanceLengths
  | literalCode
  | distanceCode
  | distanceTooFar
  deriving DecidableEq, Repr

/-- The text of an error. -/
def DeflateError.message : DeflateError → String
  | .blockKind => "invalid block type"
  | .storedSize => "invalid stored block lengths"
  | .tooManySymbols => "too many length or distance symbols"
  | .lengthCode => "invalid code lengths set"
  | .repetition => "invalid bit length repeat"
  | .noEndOfBlock => "invalid code -- missing end-of-block"
  | .literalLengths => "invalid literal/lengths set"
  | .distanceLengths => "invalid distances set"
  | .literalCode => "invalid literal/length code"
  | .distanceCode => "invalid distance code"
  | .distanceTooFar => "invalid distance too far back"

namespace Deflate

/-- The codes of a block. -/
structure Codes where
  literals : Huffman
  distances : Huffman

/-- The description of the codes of a block, as far as it is known: how many literals and distances
have codes, the code that their lengths are written in, and the lengths, last first. -/
structure Description where
  literals : Nat
  distances : Nat
  code : Huffman
  lengths : List Nat

/-- What a number is for. -/
inductive Purpose where
  | blockHead
  | storedSize
  | storedByte (left : Nat)
  | tableSizes
  | lengthOfLength (literals distances count : Nat) (lengths : List Nat)
  | repetition (d : Description) (value least : Nat)
  | lengthRest (codes : Codes) (base : Nat)
  | distanceRest (codes : Codes) (length base : Nat)

/-- What a symbol is for. -/
inductive Role where
  | codeLength (d : Description)
  | literal (codes : Codes)
  | distance (codes : Codes) (length : Nat)

/-- What the next bits are: the rest of a number, the rest of a symbol, padding to the next byte, or
of no interest. -/
inductive Stage where
  | number (missing value weight : Nat) (purpose : Purpose)
  | symbol (rest : Huffman) (role : Role)
  | padding
  | finished
  | failed (e : DeflateError)

/-- A decoder: the bytes so far, whether the block at hand is the last one, and what comes next. -/
structure Inflater where
  out : Array UInt8
  last : Bool
  stage : Stage

/-- The beginning of a number of `bits` bits. -/
def Stage.ofNumber (bits : Nat) (purpose : Purpose) : Stage :=
  .number bits 0 1 purpose

/-- The beginning of a symbol. -/
def Stage.ofRole (role : Role) : Stage :=
  match role with
  | .codeLength d => .symbol d.code role
  | .literal codes => .symbol codes.literals role
  | .distance codes _ => .symbol codes.distances role

/-- The error of a code that no symbol has. -/
def Role.error : Role → DeflateError
  | .codeLength _ => .lengthCode
  | .literal _ => .literalCode
  | .distance .. => .distanceCode

/-- What follows a block. -/
def afterBlock (last : Bool) : Stage :=
  if last then .finished else .ofNumber 3 .blockHead

/-- The codes of a block that does not describe them. -/
def fixedCodes : Codes :=
  { literals := .ofLengths
      (List.replicate 144 8 ++ List.replicate 112 9 ++ List.replicate 24 7 ++ List.replicate 8 8)
    distances := .ofLengths (List.replicate 32 5) }

/-- The order in which the lengths of the code for lengths are written. -/
def lengthOrder : List Nat :=
  [16, 17, 18, 0, 8, 7, 9, 6, 10, 5, 11, 4, 12, 3, 13, 2, 14, 1, 15]

/-- The least length of each length symbol, and how many bits are added. -/
def lengthBases : Array (Nat × Nat) :=
  #[(3, 0), (4, 0), (5, 0), (6, 0), (7, 0), (8, 0), (9, 0), (10, 0), (11, 1), (13, 1),
    (15, 1), (17, 1), (19, 2), (23, 2), (27, 2), (31, 2), (35, 3), (43, 3), (51, 3), (59, 3),
    (67, 4), (83, 4), (99, 4), (115, 4), (131, 5), (163, 5), (195, 5), (227, 5), (258, 0)]

/-- The least distance of each distance symbol, and how many bits are added. -/
def distanceBases : Array (Nat × Nat) :=
  #[(1, 0), (2, 0), (3, 0), (4, 0), (5, 1), (7, 1), (9, 2), (13, 2), (17, 3), (25, 3),
    (33, 4), (49, 4), (65, 5), (97, 5), (129, 6), (193, 6), (257, 7), (385, 7), (513, 8), (769, 8),
    (1025, 9), (1537, 9), (2049, 10), (3073, 10), (4097, 11), (6145, 11), (8193, 12), (12289, 12),
    (16385, 13), (24577, 13)]

/-- What follows the head of a block. -/
def blockStage (kind : Nat) : Stage :=
  match kind with
  | 0 => .padding
  | 1 => .ofRole (.literal fixedCodes)
  | 2 => .ofNumber 14 .tableSizes
  | _ => .failed .blockKind

/-- What follows the numbers of codes. -/
def sizesStage (literals distances count : Nat) : Stage :=
  if 286 < literals || 30 < distances then .failed .tooManySymbols
  else .ofNumber 3 (.lengthOfLength literals distances count [])

/-- What follows the lengths of the code for lengths. -/
def lengthCodeStage (literals distances : Nat) (lengths : List Nat) : Stage :=
  let written := lengthOrder.zip lengths
  let ordered := (List.range 19).map fun symbol => (written.lookup symbol).getD 0
  match Huffman.lengthAlphabet? ordered with
  | some code => .ofRole (.codeLength ⟨literals, distances, code, []⟩)
  | none => .failed .lengthCode

/-- What follows the description of the codes. -/
def codesStage (literals distances : List Nat) : Stage :=
  if literals[256]?.getD 0 = 0 then .failed .noEndOfBlock
  else match Huffman.alphabet? literals, Huffman.alphabet? distances with
    | none, _ => .failed .literalLengths
    | some _, none => .failed .distanceLengths
    | some l, some d => .ofRole (.literal ⟨l, d⟩)

/-- What follows when `count` times the same length is added to a description. -/
def Description.add (d : Description) (count value : Nat) : Stage :=
  let d := { d with lengths := List.replicate count value ++ d.lengths }
  let known := d.lengths.length
  if d.literals + d.distances < known then .failed .repetition
  else if known < d.literals + d.distances then .ofRole (.codeLength d)
  else
    let lengths := d.lengths.reverse
    codesStage (lengths.take d.literals) (lengths.drop d.literals)

/-- Appends bytes that lie `distance` bytes back, one by one. -/
def copyBack (distance : Nat) : Nat → Array UInt8 → Array UInt8
  | 0, out => out
  | n + 1, out =>
    let b := out[out.size - distance]?.getD 0
    copyBack distance n (out.push b)

/-- A reference to earlier bytes is complete. -/
def refer (out : Array UInt8) (last : Bool) (codes : Codes) (length distance : Nat) : Inflater :=
  if out.size < distance then ⟨out, last, .failed .distanceTooFar⟩
  else ⟨copyBack distance length out, last, .ofRole (.literal codes)⟩

/-- A number is complete. -/
def gotNumber (out : Array UInt8) (last : Bool) (v : Nat) : Purpose → Inflater
  | .blockHead => ⟨out, v % 2 = 1, blockStage (v / 2)⟩
  | .storedSize =>
    if v % 65536 + v / 65536 ≠ 65535 then ⟨out, last, .failed .storedSize⟩
    else if v % 65536 = 0 then ⟨out, last, afterBlock last⟩
    else ⟨out, last, .ofNumber 8 (.storedByte (v % 65536 - 1))⟩
  | .storedByte left =>
    ⟨out.push (UInt8.ofNat v), last,
      if left = 0 then afterBlock last else .ofNumber 8 (.storedByte (left - 1))⟩
  | .tableSizes => ⟨out, last, sizesStage (257 + v % 32) (1 + v / 32 % 32) (4 + v / 1024)⟩
  | .lengthOfLength literals distances count lengths =>
    let lengths := v :: lengths
    if lengths.length < count then
      ⟨out, last, .ofNumber 3 (.lengthOfLength literals distances count lengths)⟩
    else ⟨out, last, lengthCodeStage literals distances lengths.reverse⟩
  | .repetition d value least => ⟨out, last, d.add (least + v) value⟩
  | .lengthRest codes base => ⟨out, last, .ofRole (.distance codes (base + v))⟩
  | .distanceRest codes length base => refer out last codes length (base + v)

/-- A symbol is complete. -/
def gotSymbol (out : Array UInt8) (last : Bool) (symbol : Nat) : Role → Inflater
  | .codeLength d =>
    ⟨out, last,
      match symbol with
      | 16 =>
        .ofNumber 2 (.repetition d (d.lengths.headD 0)
          (if d.lengths.isEmpty then d.literals + d.distances + 1 else 3))
      | 17 => .ofNumber 3 (.repetition d 0 3)
      | 18 => .ofNumber 7 (.repetition d 0 11)
      | n => d.add 1 n⟩
  | .literal codes =>
    if symbol < 256 then ⟨out.push (UInt8.ofNat symbol), last, .ofRole (.literal codes)⟩
    else if symbol = 256 then ⟨out, last, afterBlock last⟩
    else match lengthBases[symbol - 257]? with
      | none => ⟨out, last, .failed .literalCode⟩
      | some (length, 0) => ⟨out, last, .ofRole (.distance codes length)⟩
      | some (base, bits) => ⟨out, last, .ofNumber bits (.lengthRest codes base)⟩
  | .distance codes length =>
    match distanceBases[symbol]? with
    | none => ⟨out, last, .failed .distanceCode⟩
    | some (distance, 0) => refer out last codes length distance
    | some (base, bits) => ⟨out, last, .ofNumber bits (.distanceRest codes length base)⟩

namespace Inflater

/-- Takes the next bit. -/
def step : Inflater → Bool → Inflater
  | ⟨out, last, .number missing value weight purpose⟩, bit =>
    let value := if bit then value + weight else value
    if missing ≤ 1 then gotNumber out last value purpose
    else ⟨out, last, .number (missing - 1) value (2 * weight) purpose⟩
  | ⟨out, last, .symbol (.node zero one) role⟩, bit =>
    match if bit then one else zero with
    | .leaf symbol => gotSymbol out last symbol role
    | .unused => ⟨out, last, .failed role.error⟩
    | rest => ⟨out, last, .symbol rest role⟩
  | ⟨out, last, .symbol _ role⟩, _ => ⟨out, last, .failed role.error⟩
  | m, _ => m

/-- Takes the next byte, its lowest bit first. Padding ends where it begins. -/
def stepByte (m : Inflater) (b : UInt8) : Inflater :=
  let m := match m with
    | ⟨out, last, .padding⟩ => ⟨out, last, .ofNumber 32 .storedSize⟩
    | m => m
  (List.range 8).foldl (fun m i => m.step (b.toNat.testBit i)) m

/-- A decoder that has read nothing. -/
def start : Inflater :=
  ⟨#[], false, .ofNumber 3 .blockHead⟩

end Inflater

end Deflate

/-- What compressed data unfolds to. `ended` says that its last block is complete. -/
structure Inflated where
  bytes : Bytes
  ended : Bool
  deriving DecidableEq, Repr

/-- Unfolds compressed data. -/
def inflate (bytes : Bytes) : Except DeflateError Inflated :=
  let m := bytes.foldl Deflate.Inflater.stepByte .start
  match m.stage with
  | .failed e => .error e
  | .finished => .ok ⟨m.out.toList, true⟩
  | _ => .ok ⟨m.out.toList, false⟩

end BookCatalog.Archive
