/-!
# Prefix codes

A prefix code is a tree whose paths are the codes and whose leaves are the symbols. It is given by
the lengths of the codes alone: shorter codes come first, and codes of one length come in the order
of their symbols.
-/

namespace BookCatalog.Archive

/-- A prefix code. `unused` stands where no code ends. -/
inductive Huffman where
  | unused
  | leaf (symbol : Nat)
  | node (zero one : Huffman)
  deriving DecidableEq, Repr

namespace Huffman

/-- The length of the longest codes. -/
def maxLength : Nat := 15

/-- The symbols with codes of one length. -/
def leaves (lengths : List Nat) (length : Nat) : List Huffman :=
  lengths.zipIdx.filterMap fun (l, symbol) => if l = length then some (leaf symbol) else none

/-- Trees put together by twos. -/
def pairs : List Huffman → List Huffman
  | a :: b :: rest => node a b :: pairs rest
  | [a] => [node a unused]
  | [] => []

/-- The trees that stand `above` levels over the deepest one, in order. -/
def level (lengths : List Nat) : Nat → List Huffman
  | 0 => leaves lengths maxLength
  | above + 1 => leaves lengths (maxLength - (above + 1)) ++ pairs (level lengths above)

/-- The tree of the codes with the given lengths; length zero means that a symbol has no code. -/
def ofLengths (lengths : List Nat) : Huffman :=
  match level lengths (maxLength - 1) with
  | [] => node unused unused
  | [a] => node a unused
  | a :: b :: _ => node a b

/-- The number of codes of the greatest length. -/
def capacity : Nat := 32768

/-- How many codes of the greatest length a code of a length takes up; length zero means that there
is no code. -/
def weightOf (length : Nat) : Nat :=
  if length = 0 then 0 else capacity / Nat.pow 2 length

/-- How much of all codes the given lengths use up, in codes of the greatest length. -/
def weight (lengths : List Nat) : Nat :=
  lengths.foldl (fun total length => total + weightOf length) 0

/-- The lengths use up all codes, and each once. -/
def isComplete (lengths : List Nat) : Bool :=
  weight lengths = capacity

/-- The code of an alphabet. It must be complete, unless it has no code of more than one bit. -/
def alphabet? (lengths : List Nat) : Option Huffman :=
  if isComplete lengths || (weight lengths < capacity && lengths.all (· ≤ 1)) then
    some (ofLengths lengths)
  else none

/-- The code in which the lengths of other codes are written. It must be complete; where it has no
codes at all, every bit means zero. -/
def lengthAlphabet? (lengths : List Nat) : Option Huffman :=
  if isComplete lengths then some (ofLengths lengths)
  else if lengths.all (· = 0) then some (node (leaf 0) (leaf 0))
  else none

end Huffman

end BookCatalog.Archive
